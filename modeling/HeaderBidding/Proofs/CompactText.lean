import Mathlib.Tactic.Lemma
import Mathlib.Tactic.SplitIfs
import HeaderBidding.Schema.Text
import HeaderBidding.Json.Write

/-!
# Compact text read back

Documents are stored as their compact text (`Json.compact`) and read back with a schema
(`Schema.readText`). This file follows the reader over such a text byte by byte: `Holds src i bs`
says that the source holds the bytes `bs` from position `i` on, and each lemma says what one
reading step makes of the bytes the writer put there.

A string literal reads back as the string it was written from, whatever it holds: the letter
escapes, the `\u00XX` escapes of control characters, and every other character as its UTF-8
bytes (`readString_escaped`). Booleans and strings read back by their scalar schemas, also when
optional (`readsBack_optional`). An object whose members have distinct keys, each read back by
its field, reads back as the members the record puts together (`readText_compact_obj`); for a
record written field by field, whose fields are left out when absent, these are the members
written (`assemble_entries`).
-/

namespace HeaderBidding.Json

/-! ### Bytes at a position -/

/-- The source holds the bytes `bs` from position `i` on. -/
def Holds (src : ByteArray) (i : Nat) (bs : List UInt8) : Prop :=
  bs <+: src.data.toList.drop i

lemma byteAt_eq (src : ByteArray) (i : Nat) : byteAt src i = src.data.toList[i]? := by
  simp [byteAt, getElem?_def, ByteArray.getElem_eq_getElem_data]

lemma holds_whole (src : ByteArray) : Holds src 0 src.data.toList :=
  List.prefix_refl _

lemma holds_cons_iff {src : ByteArray} {i : Nat} {b : UInt8} {bs : List UInt8} :
    Holds src i (b :: bs) ↔ byteAt src i = some b ∧ Holds src (i + 1) bs := by
  unfold Holds
  rw [byteAt_eq]
  cases hL : src.data.toList.drop i with
  | nil =>
    have hlen : src.data.toList.length ≤ i := List.drop_eq_nil_iff.mp hL
    have hlen' : src.data.toList.length ≤ i + 1 := by omega
    simp [List.getElem?_eq_none hlen, List.drop_eq_nil_of_le hlen']
  | cons y ys =>
    have hy : src.data.toList[i]? = some y := by rw [← List.head?_drop, hL]; rfl
    have hys : src.data.toList.drop (i + 1) = ys := by rw [← List.tail_drop, hL]; rfl
    simp [hy, hys, List.cons_prefix_cons, eq_comm]

lemma holds_append_iff {src : ByteArray} {i : Nat} {xs ys : List UInt8} :
    Holds src i (xs ++ ys) ↔ Holds src i xs ∧ Holds src (i + xs.length) ys := by
  induction xs generalizing i with
  | nil => simp [Holds, List.nil_prefix]
  | cons x xs ih =>
    have hlen : i + 1 + xs.length = i + (x :: xs).length := by
      rw [List.length_cons]; omega
    rw [List.cons_append, holds_cons_iff, holds_cons_iff, ih, and_assoc, hlen]

lemma lt_size_of_byteAt {src : ByteArray} {i : Nat} {b : UInt8} (h : byteAt src i = some b) :
    ∃ hi : i < src.size, src[i] = b := by
  unfold byteAt at h
  rw [getElem?_def] at h
  split at h
  case isTrue hi => exact ⟨hi, Option.some.inj h⟩
  case isFalse => cases h

lemma readWord_of_holds {src : ByteArray} {w : List UInt8} {i : Nat} (h : Holds src i w) :
    readWord src w i = .ok (i + w.length) := by
  induction w generalizing i with
  | nil => simp [readWord]
  | cons b bs ih =>
    obtain ⟨hb, hbs⟩ := holds_cons_iff.mp h
    simp only [readWord, hb, beq_self_eq_true, ↓reduceIte, ih hbs, List.length_cons]
    rw [Nat.add_assoc, Nat.add_comm 1]

lemma skipSpace_of_byteAt {src : ByteArray} {i : Nat} {b : UInt8} (h : byteAt src i = some b)
    (hb : isSpace b = false) : skipSpace src i = i := by
  obtain ⟨hi, hget⟩ := lt_size_of_byteAt h
  rw [skipSpace, dif_pos hi, hget, hb]
  rfl

/-- The bytes of a byte array, as its reading loop lists them. -/
lemma toList_loop (bs : ByteArray) (i : Nat) (r : List UInt8) :
    ByteArray.toList.loop bs i r = r.reverse ++ bs.data.toList.drop i := by
  fun_induction ByteArray.toList.loop bs i r with
  | case1 i r hi ih =>
    have hlt : i < bs.data.toList.length := by simpa using hi
    rw [ih, List.drop_eq_getElem_cons hlt]
    simp [ByteArray.get!, hi]
  | case2 i r hi =>
    rw [List.drop_eq_nil_of_le (by simpa using hi), List.append_nil]

lemma toList_eq_data_toList (bs : ByteArray) : bs.toList = bs.data.toList := by
  simp [ByteArray.toList, toList_loop]

/-! ### Strings -/

/-- The bytes of the characters that stand for `cs` inside a string literal. -/
def escapedBytes (cs : List Char) : List UInt8 :=
  (cs.flatMap escapeChar).flatMap String.utf8EncodeChar

lemma escapedBytes_cons (c : Char) (cs : List Char) :
    escapedBytes (c :: cs) = escapedBytes [c] ++ escapedBytes cs := by
  simp [escapedBytes]

lemma readStringBytes_quote {src acc : ByteArray} {i : Nat} (h : byteAt src i = some 34) :
    readStringBytes src acc i = .ok (acc, i + 1) := by
  obtain ⟨hi, hget⟩ := lt_size_of_byteAt h
  rw [readStringBytes, dif_pos hi]
  simp [hget]

lemma readStringBytes_escape {src acc bs : ByteArray} {i j : Nat} (h : byteAt src i = some 92)
    (hesc : readEscape src (i + 1) = .ok (bs, j)) (hij : i < j) :
    readStringBytes src acc i = readStringBytes src (acc ++ bs) j := by
  obtain ⟨hi, hget⟩ := lt_size_of_byteAt h
  rw [readStringBytes, dif_pos hi]
  simp [hget, hesc, hij]

lemma readStringBytes_byte {src acc : ByteArray} {i : Nat} {b : UInt8} (h : byteAt src i = some b)
    (hq : b ≠ 34) (hbs : b ≠ 92) (hc : 32 ≤ b) :
    readStringBytes src acc i = readStringBytes src (acc.push b) (i + 1) := by
  obtain ⟨hi, hget⟩ := lt_size_of_byteAt h
  rw [readStringBytes, dif_pos hi]
  simp only [hget, beq_iff_eq, hq, hbs, ↓reduceIte, UInt8.not_lt.mpr hc]

lemma holds_extract {src : ByteArray} {i : Nat} {bs : List UInt8} (hne : bs ≠ [])
    (h : Holds src i bs) :
    i + bs.length ≤ src.size ∧ (src.extract i (i + bs.length)).toList = bs := by
  obtain ⟨t, ht⟩ := h
  have hlen : bs.length + t.length = src.size - i := by
    rw [← List.length_append, ht, List.length_drop, Array.length_toList, ByteArray.size_data]
  have hpos : 0 < bs.length := List.length_pos_iff.mpr hne
  refine ⟨by omega, ?_⟩
  rw [toList_eq_data_toList, ByteArray.data_extract, Array.toList_extract, List.extract_eq_take_drop,
    ← ht, Nat.add_sub_cancel_left, List.take_left']
  rfl

lemma readStringBytes_plain {src acc : ByteArray} {i : Nat} {bs : List UInt8}
    (hplain : ∀ b ∈ bs, 32 ≤ b.toNat ∧ b.toNat ≠ 34 ∧ b.toNat ≠ 92) (h : Holds src i bs) :
    readStringBytes src acc i = readStringBytes src (acc ++ bs.toByteArray) (i + bs.length) := by
  induction bs generalizing acc i with
  | nil => simp
  | cons b bs ih =>
    obtain ⟨hb, hbs⟩ := holds_cons_iff.mp h
    obtain ⟨hc, hq, hbsl⟩ := hplain b List.mem_cons_self
    have hstep : readStringBytes src acc i = readStringBytes src (acc.push b) (i + 1) :=
      readStringBytes_byte hb (fun e => hq (by rw [e]; rfl))
      (fun e => hbsl (by rw [e]; rfl)) (UInt8.le_iff_toNat_le.mpr hc)
    rw [hstep, ih (fun b' hb' => hplain b' (List.mem_cons_of_mem _ hb')) hbs]
    congr 1
    · rw [← ByteArray.append_toByteArray_singleton, ByteArray.append_assoc,
        ← List.toByteArray_append, List.singleton_append]
    · simp; omega

/-- The bytes of a `\u00XX` escape after its `\u`: two zeros and two lowercase hex digits. -/
def hexEscapeBytes (n : Nat) : List UInt8 :=
  (['0', '0'] ++ List.replicate (2 - (Nat.toDigits 16 n).length) '0' ++ Nat.toDigits 16 n).flatMap
    String.utf8EncodeChar

lemma hexEscapeBytes_spec {n : Nat} (hn : n < 32) :
    (hexEscapeBytes n).length = 4 ∧ hexValue (hexEscapeBytes n) = some n :=
  (by decide : ∀ m : Fin 32,
    (hexEscapeBytes m).length = 4 ∧ hexValue (hexEscapeBytes m) = some m.val) ⟨n, hn⟩

lemma plain_utf8EncodeChar {c : Char} (hq : c ≠ '"') (hbs : c ≠ '\\') (hc : 32 ≤ c.toNat) :
    ∀ b ∈ String.utf8EncodeChar c, 32 ≤ b.toNat ∧ b.toNat ≠ 34 ∧ b.toNat ≠ 92 := by
  have hq' : c.toNat ≠ 34 := fun e => hq (Char.toNat_inj.mp e)
  have hbs' : c.toNat ≠ 92 := fun e => hbs (Char.toNat_inj.mp e)
  intro b hb
  simp only [String.utf8EncodeChar] at hb
  have hv : c.val.toNat = c.toNat := rfl
  rw [hv] at hb
  split_ifs at hb <;> simp only [List.mem_cons, List.not_mem_nil, or_false] at hb <;>
    rcases hb with rfl | rfl | rfl | rfl <;> simp [UInt8.toNat_ofNat] <;> omega

/-- What the reader makes of each character's escape: one of seven letter escapes, a `\u00XX`
escape of a control character, or the character's own bytes, none of them a control, a quote or
a backslash. -/
lemma escapeChar_cases (c : Char) :
    (∃ e : UInt8, (escapeChar c).flatMap String.utf8EncodeChar = [92, e] ∧
      ∀ (src : ByteArray) (j : Nat), byteAt src j = some e →
        readEscape src j = .ok ([c].utf8Encode, j + 1)) ∨
    (c.toNat < 32 ∧
      (escapeChar c).flatMap String.utf8EncodeChar = [92, 117] ++ hexEscapeBytes c.toNat) ∨
    ((escapeChar c).flatMap String.utf8EncodeChar = String.utf8EncodeChar c ∧
      c ≠ '"' ∧ c ≠ '\\' ∧ 32 ≤ c.toNat) := by
  unfold escapeChar
  -- one case per test of the escape table, in its order; `split_ifs` is slow on this chain
  by_cases h1 : c = '"'
  · subst h1; exact .inl ⟨34, rfl, fun src j hj => by simp [readEscape, hj]; decide⟩
  rw [if_neg h1]
  by_cases h2 : c = '\\'
  · subst h2; exact .inl ⟨92, rfl, fun src j hj => by simp [readEscape, hj]; decide⟩
  rw [if_neg h2]
  by_cases h3 : c = '\x08'
  · subst h3; exact .inl ⟨98, rfl, fun src j hj => by simp [readEscape, hj]; decide⟩
  rw [if_neg h3]
  by_cases h4 : c = '\x0c'
  · subst h4; exact .inl ⟨102, rfl, fun src j hj => by simp [readEscape, hj]; decide⟩
  rw [if_neg h4]
  by_cases h5 : c = '\n'
  · subst h5; exact .inl ⟨110, rfl, fun src j hj => by simp [readEscape, hj]; decide⟩
  rw [if_neg h5]
  by_cases h6 : c = '\r'
  · subst h6; exact .inl ⟨114, rfl, fun src j hj => by simp [readEscape, hj]; decide⟩
  rw [if_neg h6]
  by_cases h7 : c = '\t'
  · subst h7; exact .inl ⟨116, rfl, fun src j hj => by simp [readEscape, hj]; decide⟩
  rw [if_neg h7]
  by_cases h8 : c.toNat < 32
  · rw [if_pos h8]
    exact .inr (.inl ⟨h8, by simp [hexEscapeBytes]; rfl⟩)
  · rw [if_neg h8]
    exact .inr (.inr ⟨by simp, h1, h2, by omega⟩)

/-- One character of a string literal is read as the character's bytes. -/
lemma readStringBytes_escapeChar {src acc : ByteArray} {i : Nat} (c : Char)
    (h : Holds src i (escapedBytes [c])) :
    readStringBytes src acc i =
      readStringBytes src (acc ++ [c].utf8Encode) (i + (escapedBytes [c]).length) := by
  have hone : escapedBytes [c] = (escapeChar c).flatMap String.utf8EncodeChar := by
    simp [escapedBytes]
  rw [hone] at h ⊢
  rcases escapeChar_cases c with ⟨e, hbytes, hread⟩ | ⟨hctl, hbytes⟩ | ⟨hbytes, hq, hbs, hc⟩
  · -- a letter escape
    rw [hbytes] at h ⊢
    obtain ⟨h92, he, -⟩ := by simpa only [holds_cons_iff] using h
    rw [readStringBytes_escape h92 (hread src (i + 1) he) (by omega)]
    rfl
  · -- a `\u00XX` escape
    rw [hbytes] at h ⊢
    obtain ⟨hlen, hval⟩ := hexEscapeBytes_spec hctl
    obtain ⟨⟨h92, hu, -⟩, hhex⟩ := by simpa only [holds_append_iff, holds_cons_iff] using h
    have hne : hexEscapeBytes c.toNat ≠ [] := List.ne_nil_of_length_pos (by omega)
    obtain ⟨hsize, hextract⟩ := holds_extract hne hhex
    have hat : i + [(92 : UInt8), 117].length = i + 1 + 1 := rfl
    rw [hlen, hat] at hsize hextract
    have hsurrogate : ¬ (56320 ≤ c.toNat ∧ c.toNat ≤ 57343) := by omega
    have hlow : c.toNat < 55296 ∨ 56319 < c.toNat := .inl (by omega)
    have hesc : readEscape src (i + 1) = .ok ([c].utf8Encode, i + 1 + 1 + 4) := by
      simp only [readEscape, hu, readUnicodeEscape, readHex4, if_pos hsize, hextract, hval]
      simp only [bind, Except.bind, if_neg hsurrogate, if_pos hlow, pure, Except.pure,
        codePointBytes, Char.ofNat_toNat]
      simp
    rw [readStringBytes_escape h92 hesc (by omega)]
    simp only [List.length_append, hlen]
    rfl
  · -- a character written as it is
    rw [hbytes] at h ⊢
    rw [readStringBytes_plain (plain_utf8EncodeChar hq hbs hc) h, List.utf8Encode_singleton]

/-- The characters of a string literal, up to its closing quote, are read as their bytes. -/
lemma readStringBytes_escaped {src : ByteArray} (cs : List Char) :
    ∀ (acc : ByteArray) (i : Nat), Holds src i (escapedBytes cs ++ [34]) →
      readStringBytes src acc i = .ok (acc ++ cs.utf8Encode, i + (escapedBytes cs).length + 1) := by
  induction cs with
  | nil =>
    intro acc i h
    rw [readStringBytes_quote (holds_cons_iff.mp h).1]
    simp [escapedBytes]
  | cons c cs ih =>
    intro acc i h
    have hsplit := escapedBytes_cons c cs
    rw [hsplit, List.append_assoc, holds_append_iff] at h
    have hcons : (c :: cs).utf8Encode = [c].utf8Encode ++ cs.utf8Encode := List.utf8Encode_cons
    rw [readStringBytes_escapeChar c h.1, ih _ _ h.2, hsplit, hcons,
      ByteArray.append_assoc, List.length_append]
    simp only [Except.ok.injEq, Prod.mk.injEq, true_and]
    omega

lemma fromUTF8?_toByteArray (s : String) : String.fromUTF8? s.toByteArray = some s := by
  simp [String.fromUTF8?, s.isValidUTF8]
  rfl

/-- A string literal is read as the string it was written from. -/
lemma readString_escaped {src : ByteArray} {i : Nat} (s : String)
    (h : Holds src i (escapedBytes s.toList ++ [34])) :
    readString src i = .ok (s, i + (escapedBytes s.toList).length + 1) := by
  have hbytes := readStringBytes_escaped s.toList ByteArray.empty i h
  rw [ByteArray.empty_append, String.utf8Encode_toList, ← String.toUTF8_eq_toByteArray] at hbytes
  simp [readString, hbytes, bind, Except.bind, pure, Except.pure, fromUTF8?_toByteArray]

/-- The bytes of a string literal: a quote, the escaped characters, a quote. -/
lemma quoteString_bytes (s : String) :
    (quoteString s).toByteArray.data.toList = 34 :: (escapedBytes s.toList ++ [34]) := by
  simp [quoteString, escapedBytes, List.utf8Encode]
  rfl

/-! ### Scalars -/

/-- The bytes of a document's compact text. -/
abbrev textBytes (j : Json) : List UInt8 :=
  (compact j).toByteArray.data.toList

lemma textBytes_str (s : String) : textBytes (.str s) = 34 :: (escapedBytes s.toList ++ [34]) := by
  simp only [textBytes, compact]
  exact quoteString_bytes s

lemma textBytes_bool (b : Bool) :
    textBytes (.bool b) = if b then [116, 114, 117, 101] else [102, 97, 108, 115, 101] := by
  cases b <;> rfl

/-! ### Members -/

/-- The bytes of a member `"key":value`. -/
abbrev memberBytes (m : String × Json) : List UInt8 :=
  (quoteString m.1).toByteArray.data.toList ++ 58 :: textBytes m.2

/-- The bytes of members that follow another, each after a comma. -/
def restBytes (ms : List (String × Json)) : List UInt8 :=
  ms.flatMap fun m => 44 :: memberBytes m

/-- The bytes of a text put together from pieces. -/
lemma bytes_append (s t : String) :
    (s ++ t).toByteArray.data.toList = s.toByteArray.data.toList ++ t.toByteArray.data.toList := by
  simp

lemma compactMembers_bytes (m : String × Json) (ms : List (String × Json)) :
    (compactMembers (m :: ms)).toByteArray.data.toList = memberBytes m ++ restBytes ms := by
  induction ms generalizing m with
  | nil =>
    obtain ⟨k, v⟩ := m
    have hone : compactMembers [(k, v)] = quoteString k ++ ":" ++ compact v := rfl
    rw [hone, bytes_append, bytes_append]
    simp only [memberBytes, restBytes, List.flatMap_nil, List.append_nil, List.append_assoc]
    rfl
  | cons m' ms ih =>
    obtain ⟨k, v⟩ := m
    have hcons : compactMembers ((k, v) :: m' :: ms) =
        quoteString k ++ ":" ++ compact v ++ "," ++ compactMembers (m' :: ms) := by
      obtain ⟨k', v'⟩ := m'
      rfl
    have hcolon : ":".toByteArray.data.toList = [58] := rfl
    have hcomma : ",".toByteArray.data.toList = [44] := rfl
    rw [hcons, bytes_append, bytes_append, bytes_append, bytes_append, ih, hcolon, hcomma]
    simp only [memberBytes, restBytes, List.flatMap_cons, List.append_assoc, List.cons_append,
      List.nil_append]

lemma textBytes_obj (ms : List (String × Json)) :
    textBytes (.obj ms) = 123 :: ((compactMembers ms).toByteArray.data.toList ++ [125]) := by
  have hobj : compact (.obj ms) = "\x7b" ++ compactMembers ms ++ "\x7d" := rfl
  rw [textBytes, hobj, bytes_append, bytes_append]
  rfl

/-- The separator before a member: nothing before the first, a comma before the others. -/
def sepBytes (first : Bool) : List UInt8 :=
  if first then [] else [44]

/-! ### Records written field by field -/

/-- The members of a record written field by field: each key with its value, keys without a
value left out. -/
def entries (keys : List String) (val : String → Option Json) : List (String × Json) :=
  keys.filterMap fun k => (val k).map (k, ·)

lemma entries_cons (k : String) (ks : List String) (val : String → Option Json) :
    entries (k :: ks) val = ((val k).map (k, ·)).toList ++ entries ks val := by
  cases hv : val k <;> simp [entries, hv]

lemma entries_eq_flatMap (keys : List String) (val : String → Option Json) :
    entries keys val = keys.flatMap fun k => ((val k).map (k, ·)).toList := by
  induction keys with
  | nil => rfl
  | cons k ks ih => rw [entries_cons, ih, List.flatMap_cons]

lemma mem_entries {keys : List String} {val : String → Option Json} {m : String × Json} :
    m ∈ entries keys val ↔ m.1 ∈ keys ∧ val m.1 = some m.2 := by
  obtain ⟨k, v⟩ := m
  simp [entries]

lemma keys_entries_sublist (keys : List String) (val : String → Option Json) :
    List.Sublist ((entries keys val).map (·.1)) keys := by
  induction keys with
  | nil => simp [entries]
  | cons k ks ih =>
    rw [entries_cons]
    cases val k with
    | none => simpa using ih.cons k
    | some v => simpa using ih.cons_cons k

lemma find?_entries_of_not_mem {keys : List String} {val : String → Option Json} {k : String}
    (hk : k ∉ keys) : (entries keys val).find? (·.1 == k) = none := by
  rw [List.find?_eq_none]
  intro m hm
  have hkey := (mem_entries.mp hm).1
  simp only [beq_iff_eq]
  exact fun e => hk (e ▸ hkey)

lemma find?_entries {keys : List String} {val : String → Option Json} {k : String}
    (hnodup : keys.Nodup) (hk : k ∈ keys) :
    (entries keys val).find? (·.1 == k) = (val k).map (k, ·) := by
  induction keys with
  | nil => cases hk
  | cons k' ks ih =>
    rw [List.nodup_cons] at hnodup
    rw [entries_cons, List.find?_append]
    by_cases hkk : k' = k
    case pos =>
      subst hkk
      cases val k' <;> simp [find?_entries_of_not_mem hnodup.1]
    case neg =>
      have hks : k ∈ ks := by simpa [Ne.symm hkk] using hk
      cases val k' <;> simp [hkk, ih hnodup.2 hks]

/-- A record written field by field holds, under each of its keys, the value written. -/
lemma get?_entries {keys : List String} {val : String → Option Json} {k : String}
    (hnodup : keys.Nodup) (hk : k ∈ keys) : (Json.obj (entries keys val)).get? k = val k := by
  have hrev : (entries keys val).reverse = entries keys.reverse val := by
    simp [entries, List.filterMap_reverse]
  have hfind : (entries keys.reverse val).find? (·.1 == k) = (val k).map (k, ·) :=
    find?_entries (List.pairwise_reverse.mpr (hnodup.imp Ne.symm)) (List.mem_reverse.mpr hk)
  simp only [get?, hrev, hfind, Option.map_map]
  cases val k <;> rfl

lemma field?_entries {keys : List String} {val : String → Option Json} {k : String}
    (hnodup : keys.Nodup) (hk : k ∈ keys) (hnull : val k ≠ some .null) :
    (Json.obj (entries keys val)).field? k = val k := by
  unfold field?
  rw [get?_entries hnodup hk]
  split
  · simp_all
  · rfl

end HeaderBidding.Json

namespace HeaderBidding.Schema

open Json

/-! ### Scalars -/

/-- A scalar schema and a document that it reads from the document's compact text. -/
inductive Scalar : Schema → Json → Prop
  | boolean (b : Bool) : Scalar .boolean (.bool b)
  | string (s : String) : Scalar .string (.str s)

lemma readBy_scalar {src : ByteArray} {s : Schema} {v : Json} (hv : Scalar s v) (fuel depth : Nat)
    {i : Nat} (h : Holds src i (textBytes v)) :
    readBy src (fuel + 1) s depth i = .ok (v, i + (textBytes v).length) := by
  cases hv with
  | boolean b =>
    rw [textBytes_bool] at h ⊢
    -- a word is told by its first letter and checked to the end
    cases b
    all_goals
      obtain ⟨hfirst, hrest⟩ := holds_cons_iff.mp (by simpa using h)
      simp only [readBy, skipSpace_of_byteAt hfirst rfl, hfirst, readWord_of_holds hrest]
      rfl
  | string t =>
    rw [textBytes_str] at h ⊢
    obtain ⟨hq, hrest⟩ := holds_cons_iff.mp h
    simp only [readBy, skipSpace_of_byteAt hq rfl, hq, readString_escaped t hrest]
    simp only [lift, Except.map, List.length_cons, List.length_append, List.length_nil]
    congr 2
    omega

lemma readBy_optional {src : ByteArray} {s : Schema} {fuel depth i : Nat} {b : UInt8}
    (h : byteAt src i = some b) (hsp : isSpace b = false) (hnull : b ≠ 110) :
    readBy src (fuel + 1) (.optional s) depth i = readBy src fuel s depth i := by
  simp only [readBy, skipSpace_of_byteAt h hsp, h]
  split
  · simp_all
  · rfl

/-! ### Records -/

lemma nextKey_key {src : ByteArray} {i : Nat} {first : Bool} {key : String}
    (h : Holds src i (sepBytes first ++ (quoteString key).toByteArray.data.toList)) :
    nextKey src i first =
      .ok (.inr (key, i + (sepBytes first ++ (quoteString key).toByteArray.data.toList).length)) := by
  rw [quoteString_bytes] at h ⊢
  cases first
  · obtain ⟨hc, hq, hrest⟩ := by simpa only [sepBytes, holds_cons_iff, List.cons_append,
      List.nil_append, Bool.false_eq_true, ↓reduceIte] using h
    simp [nextKey, skipSpace_of_byteAt hc rfl, hc, skipSpace_of_byteAt hq rfl, hq,
      readString_escaped key hrest, sepBytes, Except.map]
    omega
  · obtain ⟨hq, hrest⟩ := by simpa only [sepBytes, holds_cons_iff, List.nil_append,
      ↓reduceIte] using h
    simp [nextKey, skipSpace_of_byteAt hq rfl, hq, readString_escaped key hrest, sepBytes,
      Except.map]
    omega

lemma nextKey_close {src : ByteArray} {i : Nat} {first : Bool} (h : byteAt src i = some 125) :
    nextKey src i first = .ok (.inl i) := by
  simp only [nextKey, skipSpace_of_byteAt h rfl, h]

lemma colonAt_of {src : ByteArray} {k : Nat} (h : byteAt src k = some 58) :
    colonAt src k = .ok (k + 1) := by
  simp only [colonAt, skipSpace_of_byteAt h rfl, h]

/-- A member that a record's fields read back from its compact text: its key names a field, whose
schema reads the member's value from the value's text, given two steps of fuel. -/
def ReadsBack (src : ByteArray) (fields : List (String × Schema × FieldRule)) (depth : Nat)
    (m : String × Json) : Prop :=
  ∃ f, fields.find? (·.1 == m.1) = some f ∧
    ∀ fuel j, Holds src j (textBytes m.2) →
      readBy src (fuel + 2) f.2.1 depth j = .ok (m.2, j + (textBytes m.2).length)

/-- The first byte of a scalar's text, a letter of `true` or `false` or a quote, is neither a
blank nor the `n` of `null`. -/
lemma textBytes_scalar_head {s : Schema} {v : Json} (hv : Scalar s v) :
    ∃ b bs, textBytes v = b :: bs ∧ isSpace b = false ∧ b ≠ 110 := by
  cases hv with
  | boolean b => cases b <;> exact ⟨_, _, rfl, rfl, by decide⟩
  | string t => exact ⟨34, _, textBytes_str t, rfl, by decide⟩

/-- A member whose field is an optional scalar reads back. -/
lemma readsBack_optional {fields : List (String × Schema × FieldRule)} {depth : Nat} {k : String}
    {v : Json} {s : Schema} {f : String × Schema × FieldRule}
    (hfind : fields.find? (·.1 == k) = some f) (hs : f.2.1 = .optional s) (hv : Scalar s v)
    (src : ByteArray) : ReadsBack src fields depth (k, v) := by
  refine ⟨f, hfind, fun fuel j h => ?_⟩
  obtain ⟨b, bs, hbytes, hsp, hn⟩ := textBytes_scalar_head hv
  have hb : byteAt src j = some b := (holds_cons_iff.mp (hbytes ▸ h)).1
  rw [hs, readBy_optional hb hsp hn]
  exact readBy_scalar hv fuel depth h

/-- One member of a record read by its field. -/
lemma readFields_member {src : ByteArray} {fields : List (String × Schema × FieldRule)}
    {depth i : Nat} {first : Bool} {found : List (String × Json)} {m : String × Json} (fuel : Nat)
    (hm : ReadsBack src fields depth m) (hnew : found.any (·.1 == m.1) = false)
    (h : Holds src i (sepBytes first ++ memberBytes m)) :
    readFields src (fuel + 3) fields depth i first found =
      readFields src (fuel + 2) fields depth (i + (sepBytes first ++ memberBytes m).length) false
        (found ++ [m]) := by
  obtain ⟨f, hfind, hread⟩ := hm
  obtain ⟨k, v⟩ := m
  simp only [memberBytes, ← List.append_assoc] at h
  rw [holds_append_iff, holds_cons_iff] at h
  obtain ⟨hkey, hcolon, hvalue⟩ := h
  rw [readFields, nextKey_key hkey]
  simp only [lift, hfind, hnew, Bool.false_eq_true, ↓reduceIte, colonAt_of hcolon, hread _ _ hvalue]
  congr 1
  simp only [memberBytes, List.length_append, List.length_cons]
  omega

lemma readFields_close {src : ByteArray} {fields : List (String × Schema × FieldRule)}
    {fuel depth i : Nat} {first : Bool} {found : List (String × Json)}
    (h : byteAt src i = some 125) :
    readFields src (fuel + 1) fields depth i first found = .ok (found, i) := by
  rw [readFields, nextKey_close h]
  rfl

/-- Members after the first, each after a comma, up to the closing brace: read in order. -/
lemma readFields_rest {src : ByteArray} {fields : List (String × Schema × FieldRule)}
    {depth : Nat} (ms : List (String × Json)) :
    ∀ (found : List (String × Json)) (fuel i : Nat), (ms.map (·.1)).Nodup →
      (∀ m ∈ ms, found.any (·.1 == m.1) = false) → (∀ m ∈ ms, ReadsBack src fields depth m) →
      Holds src i (restBytes ms ++ [125]) →
      readFields src (fuel + ms.length + 3) fields depth i false found =
        .ok (found ++ ms, i + (restBytes ms).length) := by
  induction ms with
  | nil =>
    intro found fuel i _ _ _ h
    rw [readFields_close (holds_cons_iff.mp h).1]
    simp [restBytes]
  | cons m ms ih =>
    intro found fuel i hnodup hnew hreads h
    rw [List.map_cons, List.nodup_cons] at hnodup
    have hsplit : restBytes (m :: ms) = (sepBytes false ++ memberBytes m) ++ restBytes ms := by
      simp [restBytes, sepBytes]
    rw [hsplit, List.append_assoc, holds_append_iff] at h
    have hfuel : fuel + (m :: ms).length + 3 = (fuel + ms.length) + 3 + 1 := by
      simp only [List.length_cons]; omega
    -- the new member's key is none of those that follow
    have hnew' : ∀ m' ∈ ms, (found ++ [m]).any (·.1 == m'.1) = false := by
      intro m' hm'
      have hne : m.1 ≠ m'.1 := fun e => hnodup.1 (e ▸ List.mem_map_of_mem hm')
      simp [List.any_append, hnew m' (List.mem_cons_of_mem _ hm'), hne]
    rw [hfuel, readFields_member (fuel + ms.length + 1) (hreads m List.mem_cons_self)
      (hnew m List.mem_cons_self) h.1]
    rw [show fuel + ms.length + 1 + 2 = fuel + ms.length + 3 by omega,
      ih (found ++ [m]) fuel _ hnodup.2 hnew'
        (fun m' hm' => hreads m' (List.mem_cons_of_mem _ hm')) h.2,
      List.append_assoc, List.singleton_append, hsplit]
    simp only [List.length_append, Nat.add_assoc]

/-- The members of a compact object, up to its closing brace, read in order. -/
lemma readFields_members {src : ByteArray} {fields : List (String × Schema × FieldRule)}
    {depth fuel i : Nat} {ms : List (String × Json)} (hnodup : (ms.map (·.1)).Nodup)
    (hreads : ∀ m ∈ ms, ReadsBack src fields depth m)
    (h : Holds src i ((compactMembers ms).toByteArray.data.toList ++ [125])) :
    readFields src (fuel + ms.length + 3) fields depth i true [] =
      .ok (ms, i + (compactMembers ms).toByteArray.data.toList.length) := by
  cases ms with
  | nil =>
    have hempty : (compactMembers []).toByteArray.data.toList = [] := rfl
    rw [hempty] at h ⊢
    rw [readFields_close (holds_cons_iff.mp h).1]
    rfl
  | cons m ms =>
    rw [List.map_cons, List.nodup_cons] at hnodup
    rw [compactMembers_bytes] at h ⊢
    have hfirst : memberBytes m = sepBytes true ++ memberBytes m := (List.nil_append _).symm
    rw [hfirst, List.append_assoc, holds_append_iff] at h
    have hfuel : fuel + (m :: ms).length + 3 = (fuel + ms.length) + 3 + 1 := by
      simp only [List.length_cons]; omega
    have hnew : ∀ m' ∈ ms, [m].any (·.1 == m'.1) = false := by
      intro m' hm'
      have hne : m.1 ≠ m'.1 := fun e => hnodup.1 (e ▸ List.mem_map_of_mem hm')
      simp [hne]
    rw [hfuel, readFields_member (fuel + ms.length + 1) (hreads m List.mem_cons_self)
      (by rfl) h.1, show fuel + ms.length + 1 + 2 = fuel + ms.length + 3 by omega, List.nil_append,
      readFields_rest ms [m] fuel _ hnodup.2 hnew
        (fun m' hm' => hreads m' (List.mem_cons_of_mem _ hm')) h.2,
      List.singleton_append]
    simp [sepBytes]
    omega

/-- A compact object read by a record schema whose fields read back its members: the members,
as the record puts them together. -/
lemma readBy_record {src : ByteArray} {name : String} {fields : List (String × Schema × FieldRule)}
    {depth fuel i : Nat} {ms members : List (String × Json)} (hdepth : 2 ≤ depth)
    (hnodup : (ms.map (·.1)).Nodup) (hreads : ∀ m ∈ ms, ReadsBack src fields (depth - 1) m)
    (hasm : assemble fields ms = .ok members) (h : Holds src i (textBytes (.obj ms))) :
    readBy src (fuel + ms.length + 4) (.record name fields) depth i =
      .ok (.obj members, i + (textBytes (.obj ms)).length) := by
  rw [textBytes_obj] at h ⊢
  obtain ⟨hopen, hbody⟩ := holds_cons_iff.mp h
  have hdeep : ¬ depth ≤ 1 := by omega
  rw [show fuel + ms.length + 4 = (fuel + ms.length + 3) + 1 by omega]
  simp only [readBy, skipSpace_of_byteAt hopen rfl, hopen, if_neg hdeep,
    readFields_members hnodup hreads hbody, hasm]
  simp only [List.length_cons, List.length_append, List.length_nil]
  congr 2
  omega

lemma length_le_restBytes (ms : List (String × Json)) : ms.length ≤ (restBytes ms).length := by
  induction ms with
  | nil => simp
  | cons m ms ih => simp [restBytes] at ih ⊢; omega

lemma length_le_textBytes_obj (ms : List (String × Json)) :
    ms.length ≤ (textBytes (.obj ms)).length := by
  rw [textBytes_obj]
  cases ms with
  | nil => simp
  | cons m ms =>
    rw [compactMembers_bytes]
    have := length_le_restBytes ms
    simp only [List.length_cons, List.length_append] at this ⊢
    omega

lemma skipSpace_of_size_le {src : ByteArray} {i : Nat} (h : src.size ≤ i) :
    skipSpace src i = i := by
  rw [skipSpace, dif_neg (by omega)]

/-- The compact text of an object reads back, by a record schema whose fields read back its
members, as the members the record puts together. -/
lemma readText_compact_obj {name : String} {fields : List (String × Schema × FieldRule)}
    {ms members : List (String × Json)} (hnodup : (ms.map (·.1)).Nodup)
    (hreads : ∀ src, ∀ m ∈ ms, ReadsBack src fields (depthLimit - 1) m)
    (hasm : assemble fields ms = .ok members) :
    readText (.record name fields) (compact (.obj ms)) = .ok (.obj members) := by
  generalize hsrc : (compact (.obj ms)).toUTF8 = src
  have hbytes : src.data.toList = textBytes (.obj ms) := by rw [← hsrc]; rfl
  have hsize : src.size = (textBytes (.obj ms)).length := by
    rw [← hbytes, Array.length_toList, ByteArray.size_data]
  have hwhole : Holds src 0 (textBytes (.obj ms)) := by
    rw [← hbytes]
    exact holds_whole src
  have hlen := length_le_textBytes_obj ms
  have hfuel : textFuel src = (4 * src.size + 60 - ms.length) + ms.length + 4 := by
    unfold textFuel; omega
  unfold readText readBytes
  rw [hsrc, hfuel, readBy_record (by decide) hnodup (hreads src) hasm hwhole, Nat.zero_add]
  have hskip : skipSpace src (textBytes (.obj ms)).length = (textBytes (.obj ms)).length :=
    skipSpace_of_size_le (Nat.le_of_eq hsize)
  simp only [hskip, hsize, Nat.lt_irrefl, ↓reduceIte]

/-! ### Records written field by field -/

/-- A fold each of whose steps appends to the accumulator appends all of it. -/
lemma foldlM_ok_append {α β ε : Type} {step : List β → α → Except ε (List β)}
    {out : α → List β} {as : List α} (hstep : ∀ acc, ∀ a ∈ as, step acc a = .ok (acc ++ out a))
    (acc : List β) :
    as.foldlM step acc = .ok (acc ++ as.flatMap out) := by
  induction as generalizing acc with
  | nil => simp; rfl
  | cons a as ih =>
    have hrest : ∀ acc, ∀ a' ∈ as, step acc a' = .ok (acc ++ out a') :=
      fun acc a' ha' => hstep acc a' (List.mem_cons_of_mem _ ha')
    rw [List.foldlM_cons, hstep acc a List.mem_cons_self]
    simp only [bind, Except.bind]
    rw [ih hrest, List.flatMap_cons, List.append_assoc]

/-- A record whose fields are all left out when absent puts together, from members written field
by field, exactly those members. -/
lemma assemble_entries {fields : List (String × Schema × FieldRule)} {val : String → Option Json}
    (homitted : ∀ f ∈ fields, f.2.2 = .omitted) (hnull : ∀ k v, val k = some v → v ≠ .null)
    (hnodup : (fields.map (·.1)).Nodup) :
    assemble fields (entries (fields.map (·.1)) val) = .ok (entries (fields.map (·.1)) val) := by
  have hflat : entries (fields.map (·.1)) val =
      [] ++ fields.flatMap fun f => ((val f.1).map (f.1, ·)).toList := by
    rw [entries_eq_flatMap, List.flatMap_map, List.nil_append]
  unfold assemble
  conv => rhs; rw [hflat]
  refine foldlM_ok_append (fun acc f hf => ?_) []
  obtain ⟨key, s, rule⟩ := f
  have hrule : rule = .omitted := homitted _ hf
  have hkey : key ∈ fields.map (·.1) := List.mem_map_of_mem hf
  subst hrule
  simp only [find?_entries hnodup hkey]
  cases hv : val key with
  | none =>
    simp only [Option.map_none, Option.toList_none, List.append_nil]
    rfl
  | some v =>
    have hv' : v ≠ .null := hnull key v hv
    simp only [Option.map_some]
    split
    · exact absurd rfl hv'
    · rfl

end HeaderBidding.Schema
