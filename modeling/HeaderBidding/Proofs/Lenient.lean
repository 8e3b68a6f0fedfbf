import Mathlib.Tactic.Lemma
import Mathlib.Data.List.TakeWhile
import HeaderBidding.Decimal.Read
import HeaderBidding.Bid.Wire
import HeaderBidding.Proofs.FloatBits
import HeaderBidding.Proofs.TapeRead
import HeaderBidding.Proofs.SizeText

/-!
# Lenient integers

The lifetime of a slot (`ttl`) and the pause before the next request (`timeToNextCall`) are
lenient integers: whatever document stands in their place, the reader takes it and makes an
integer of it (`lenientValue`), so such a field never makes a response fail to read
(`Schema.decodeAt_lenient_of_nodesAt`).

- An integer is clamped into the signed 64-bit range (`lenientValue_int`).
- A text is trimmed and read as a float, then truncated toward zero and clamped. A text that
  reads as a 64-bit integer therefore goes through binary64: it comes back as the integer rounded
  to 53 significant bits and clamped (`lenientValue_str_of_readInt?`), which is the integer itself
  up to `2 ^ 53` in magnitude but not beyond: the text `9007199254740993` reads as
  `9007199254740992`, the number as itself.
- Every lenient value is a signed 64-bit integer (`lenientValue_mem`).

In a slot read from an object, and in a response whose slots are read to their end, the field is
the lenient value of the first member with its key, `0` when there is none
(`WireSlot.ttl_of_obj`, `WireResponse.timeToNextCall_of_readTape`). A slot given as an array of
more items than a slot has fields leaves its surplus items to be read as the response's next
members, so the theorem for responses asks that there is none.
-/

namespace HeaderBidding

/-! ### Integer texts read as floats -/

namespace Decimal

lemma toLower_of_isDigit {c : Char} (h : c.isDigit = true) : c.toLower = c := by
  simp only [Char.isDigit, Bool.and_eq_true, decide_eq_true_eq] at h
  have hdigit : c.val.toNat ≤ ('9' : Char).val.toNat := UInt32.le_iff_toNat_le.mp h.2
  have h9 : ('9' : Char).val.toNat = 57 := rfl
  unfold Char.toLower
  rw [dif_neg]
  rintro ⟨hlo, -⟩
  have hupper : (65 : UInt32).toNat ≤ c.val.toNat := UInt32.le_iff_toNat_le.mp hlo
  have h65 : (65 : UInt32).toNat = 65 := rfl
  omega

/-- A text that starts with a digit is no word that starts with something else. -/
lemma ofList_ne_of_digit_head {c : Char} (hc : c.isDigit = true) (cs : List Char) {w : String}
    {d : Char} {ds : List Char} (hw : w.toList = d :: ds) (hd : d.isDigit = false) :
    String.ofList (c :: cs) ≠ w := by
  intro h
  have hlist := congrArg String.toList h
  rw [String.toList_ofList, hw, List.cons.injEq] at hlist
  rw [hlist.1, hd] at hc
  cases hc

/-- A text that starts with a digit is none of the words `readFloat?` knows. -/
lemma ofList_ne_floatWords {c : Char} (hc : c.isDigit = true) (cs : List Char) :
    String.ofList (c :: cs) ≠ "inf" ∧ String.ofList (c :: cs) ≠ "infinity" ∧
      String.ofList (c :: cs) ≠ "nan" :=
  ⟨ofList_ne_of_digit_head hc cs (show "inf".toList = 'i' :: "nf".toList by decide) rfl,
    ofList_ne_of_digit_head hc cs (show "infinity".toList = 'i' :: "nfinity".toList by decide) rfl,
    ofList_ne_of_digit_head hc cs (show "nan".toList = 'n' :: "an".toList by decide) rfl⟩

/-- A number of at most twenty digits is scaled by `10 ^ 0` exactly. -/
lemma scaleDecimal_zero {n : Nat} (h : n < 100000000000000000000) (neg : Bool) :
    scaleDecimal neg n 0 = nearest neg n 1 := by
  have hdigits : digitCount n ≤ 20 := (Nat.length_toDigits_le_iff (by decide) (by decide)).mpr h
  unfold scaleDecimal
  split
  case isTrue h0 => rw [h0]
  case isFalse h0 =>
    dsimp only
    rw [if_neg (by omega), if_neg (by omega), if_pos (Int.le_refl 0),
      show n * Nat.pow 10 (Int.toNat 0) = n from Nat.mul_one n]

/-- A sign and a run of digits read as a float: the binary64 nearest to their value, with the
sign. -/
lemma readFloat?_of_splitSign {s : String} {neg : Bool} {ds : List Char}
    (hsplit : splitSign s.toList = (neg, ds)) (hne : ds ≠ []) (hall : ds.all Char.isDigit = true)
    (hsmall : digitsValue ds < 100000000000000000000) :
    readFloat? s = some (nearest neg (digitsValue ds) 1) := by
  have hdigit : ∀ c ∈ ds, c.isDigit = true := fun c hc => List.all_eq_true.mp hall c hc
  have hlower : ds.map Char.toLower = ds := by
    conv => rhs; rw [← List.map_id ds]
    exact List.map_congr_left fun c hc => toLower_of_isDigit (hdigit c hc)
  have htake : ds.takeWhile Char.isDigit = ds := List.takeWhile_eq_self_iff.mpr hdigit
  have hdrop : ds.dropWhile Char.isDigit = [] := List.dropWhile_eq_nil_iff.mpr hdigit
  -- the digits spell none of the float words
  obtain ⟨c, cs, hds⟩ := List.exists_cons_of_ne_nil hne
  obtain ⟨hinf, hinfinity, hnan⟩ := ofList_ne_floatWords (hdigit c (hds ▸ List.mem_cons_self)) cs
  rw [← hds] at hinf hinfinity hnan
  unfold readFloat?
  simp only [hsplit, hlower, htake, hdrop]
  rw [if_neg (by simp [hinf, hinfinity]), if_neg hnan]
  -- no fraction and no exponent: the digits scaled by `10 ^ 0`
  have hempty : ds.isEmpty = false := List.isEmpty_eq_false_iff.mpr hne
  have hexp : readExponent [] = some 0 := rfl
  rw [if_neg (by simp [hempty]), hexp, List.append_nil]
  simp only [Option.map_some, List.length_nil, Int.natCast_zero, Int.sub_zero]
  rw [scaleDecimal_zero hsmall]

/-- What a text that reads as a bounded integer is made of: a sign and a run of digits whose
value, with the sign, is the integer, within the bounds. -/
lemma readInt?_eq_some {lo hi n : Int} {s : String} (h : readInt? lo hi s = some n) :
    ∃ neg ds, splitSign s.toList = (neg, ds) ∧ ds ≠ [] ∧ ds.all Char.isDigit = true ∧
      (if neg then -(digitsValue ds : Int) else digitsValue ds) = n ∧ lo ≤ n ∧ n ≤ hi := by
  unfold readInt? at h
  cases hsplit : splitSign s.toList with
  | mk neg ds =>
    simp only [hsplit] at h
    by_cases hds : ds = [] ∨ (!ds.all Char.isDigit) = true
    case pos =>
      rw [if_pos hds] at h
      cases h
    case neg =>
      rw [if_neg hds] at h
      have hne : ds ≠ [] := fun hnil => hds (Or.inl hnil)
      have hall : ds.all Char.isDigit = true := by
        cases hd : ds.all Char.isDigit
        · exact absurd (Or.inr (by simp [hd])) hds
        · rfl
      by_cases hrange : lo ≤ (if neg then -(digitsValue ds : Int) else digitsValue ds) ∧
          (if neg then -(digitsValue ds : Int) else digitsValue ds) ≤ hi
      case pos =>
        rw [if_pos hrange] at h
        obtain rfl := Option.some.inj h
        exact ⟨neg, ds, rfl, hne, hall, rfl, hrange⟩
      case neg =>
        rw [if_neg hrange] at h
        cases h

/-- A text that reads as an integer of at most twenty digits reads as a float too: the binary64
nearest to the integer's magnitude, with the text's sign. -/
lemma readFloat?_of_readInt? {lo hi n : Int} {s : String} (h : readInt? lo hi s = some n)
    (hsmall : n.natAbs < 100000000000000000000) :
    ∃ neg : Bool, readFloat? s = some (nearest neg n.natAbs 1) ∧
      n = if neg then -(n.natAbs : Int) else n.natAbs := by
  obtain ⟨neg, ds, hsplit, hne, hall, hv, -⟩ := readInt?_eq_some h
  have habs : n.natAbs = digitsValue ds := by
    rw [← hv]
    cases neg <;> simp
  refine ⟨neg, ?_, ?_⟩
  · rw [habs]
    exact readFloat?_of_splitSign hsplit hne hall (habs ▸ hsmall)
  · rw [habs]
    exact hv.symm

end Decimal

/-! ### Lenient values -/

lemma IntKind.holds_i64 {i : Int} :
    IntKind.i64.holds i = true ↔ Decimal.int64Min ≤ i ∧ i ≤ Decimal.int64Max :=
  IntKind.holds_iff

/-- An integer is taken as it is within 64 bits, and clamped into them beyond. -/
lemma lenientValue_int (i : Int) : lenientValue (.int i) = Decimal.clampInt64 i := by
  simp only [lenientValue]
  split
  case isTrue hholds =>
    obtain ⟨hlo, hhi⟩ := IntKind.holds_i64.mp hholds
    exact (Decimal.clampInt64_of_mem hlo hhi).symm
  case isFalse hnot =>
    exact Decimal.truncInt64_ofInt_of_not_holds fun hmem => hnot (IntKind.holds_i64.mpr hmem)

/-- A text that reads as a 64-bit integer has as lenient value the integer rounded to 53
significant bits through binary64, then clamped into 64 bits. -/
lemma lenientValue_str_of_readInt? {s : String} {n : Int}
    (h : Decimal.readInt? IntKind.i64.lo IntKind.i64.hi (Text.trimBlank s) = some n) :
    lenientValue (.str s) = Decimal.clampInt64
      (if n < 0 then -(Decimal.roundToBinary64 n.natAbs : Int) else Decimal.roundToBinary64 n.natAbs) := by
  obtain ⟨-, -, -, -, -, -, hlo, hhi⟩ := Decimal.readInt?_eq_some h
  have h63 : Int.pow 2 63 = 9223372036854775808 := rfl
  simp only [IntKind.lo, IntKind.hi, h63] at hlo hhi
  obtain ⟨neg, hfloat, hsign⟩ := Decimal.readFloat?_of_readInt? h (by omega)
  simp only [lenientValue, hfloat]
  rw [Decimal.truncInt64_nearest_eq_clamp_round (by omega) neg]
  cases neg
  case false =>
    rw [if_neg Bool.false_ne_true] at hsign ⊢
    rw [if_neg (by omega)]
  case true =>
    rw [if_pos rfl] at hsign ⊢
    by_cases hn : n < 0
    case pos => rw [if_pos hn]
    case neg =>
      -- a negative zero: the integer is zero
      have h0 : n.natAbs = 0 := by omega
      rw [if_neg hn, h0, Decimal.roundToBinary64_of_le (by decide)]
      rfl

/-- A text that reads as an integer of at most 53 bits in magnitude has that integer as lenient
value. -/
lemma lenientValue_str_of_readInt?_of_le {s : String} {n : Int}
    (h : Decimal.readInt? IntKind.i64.lo IntKind.i64.hi (Text.trimBlank s) = some n)
    (hsmall : n.natAbs ≤ 9007199254740992) : lenientValue (.str s) = n := by
  rw [lenientValue_str_of_readInt? h, Decimal.roundToBinary64_of_le hsmall]
  have hsigned : (if n < 0 then -(n.natAbs : Int) else n.natAbs) = n := by
    split <;> omega
  rw [hsigned, Decimal.clampInt64_of_natAbs_lt (by omega)]

/-- Every lenient value is a signed 64-bit integer. -/
lemma lenientValue_mem (j : Json) :
    Decimal.int64Min ≤ lenientValue j ∧ lenientValue j ≤ Decimal.int64Max := by
  have h63 : Int.pow 2 63 = 9223372036854775808 := rfl
  have hzero : Decimal.int64Min ≤ 0 ∧ (0 : Int) ≤ Decimal.int64Max := by
    simp only [Decimal.int64Min, Decimal.int64Max, h63]
    omega
  cases j
  case int i =>
    rw [lenientValue_int]
    exact Decimal.clampInt64_mem i
  case float f => exact Decimal.truncate_mem _
  case str s =>
    simp only [lenientValue]
    split
    · exact Decimal.truncate_mem _
    · exact hzero
  all_goals exact hzero

/-! ### Slots and responses -/

/-- The lenient value of the first member with the key, `0` when there is none. -/
def lenientMember (members : List (String × Json)) (key : String) : Int :=
  ((members.find? (·.1 == key)).map fun m => lenientValue m.2).getD 0

open Schema

/-- A lenient field reads the document at its node as its lenient value. -/
lemma lenient_reads_lenientValue {tape : Array TapeNode} {fuel k k' : Nat} {v d : Json}
    (hv : NodesAt tape k v.tape) (h : decodeAt tape fuel .lenient k = .ok (d, k')) :
    d = .int (lenientValue v) := by
  cases fuel with
  | zero => simp [decodeAt] at h
  | succ fuel =>
    rw [decodeAt_lenient_of_nodesAt hv] at h
    simp only [Except.ok.injEq, Prod.mk.injEq] at h
    exact h.1.symm

/-- A record whose fields all have a value when absent, read from an object whose members are
read to their end, holds at a lenient field with fallback `0` the lenient value of the first
member with its key. -/
lemma get?_record_obj_lenient {tape : Array TapeNode} {fuel k k' : Nat} {name key : String}
    {fields : List (String × Schema × FieldRule)} {members : List (String × Json)} {d : Json}
    (hkept : ∀ f ∈ fields,
      (∃ d, f.2.2 = .fallback d) ∨ (f.2.2 = .required ∧ f.2.1.isOptional = true))
    (hnodup : (fields.map (·.1)).Nodup)
    (hkey : fields.find? (·.1 == key) = some (key, .lenient, .fallback (.int 0)))
    (hlaid : NodesAt tape k (Json.obj members).tape) (hend : ReadToEnd tape fields members)
    (h : decodeAt tape fuel (.record name fields) k = .ok (d, k')) :
    d.get? key = some (.int (lenientMember members key)) := by
  obtain ⟨-, found, out, hfound, hout, rfl⟩ :=
    decodeAt_record_obj hkey lenient_reads_lenientValue hlaid hend h
  rw [assemble_kept hkept found] at hout
  obtain rfl := (Except.ok.inj hout).symm
  rw [get?_map_of_nodup hnodup (List.mem_of_find?_eq_some hkey)]
  simp only [keptValue, hfound, lenientMember]
  cases members.find? (·.1 == key) <;> rfl

namespace WireSlot

/-- The fields of a slot. -/
def fields : List (String × Schema × FieldRule) :=
  [("placementId", .optional .string, .required), ("impId", .optional .string, .required),
   ("cpm", .optional Cpm.schema, .required), ("currency", .optional .string, .required),
   ("width", .integer .i32, .fallback (.int 0)), ("height", .integer .i32, .fallback (.int 0)),
   ("ttl", .lenient, .fallback (.int 0)), ("displayUrl", .optional .string, .required),
   ("native", .optional .any, .required)]

lemma schema_eq : schema = .record "CdbSlot" fields := rfl

lemma fields_readsWhole : ∀ f ∈ fields, f.2.1.readsWhole = true := by
  decide

lemma keys_nodup : (fields.map (·.1)).Nodup := by
  decide

lemma fields_kept : ∀ f ∈ fields,
    (∃ d, f.2.2 = .fallback d) ∨ (f.2.2 = .required ∧ f.2.1.isOptional = true) := by
  intro f hf
  simp only [fields, List.mem_cons, List.not_mem_nil, or_false] at hf
  -- the size and the lifetime fall back to `0`; the other fields are optional and required
  rcases hf with rfl | rfl | rfl | rfl | rfl | rfl | rfl | rfl | rfl
  · exact Or.inr ⟨rfl, rfl⟩
  · exact Or.inr ⟨rfl, rfl⟩
  · exact Or.inr ⟨rfl, rfl⟩
  · exact Or.inr ⟨rfl, rfl⟩
  · exact Or.inl ⟨_, rfl⟩
  · exact Or.inl ⟨_, rfl⟩
  · exact Or.inl ⟨_, rfl⟩
  · exact Or.inr ⟨rfl, rfl⟩
  · exact Or.inr ⟨rfl, rfl⟩

lemma find?_ttl : fields.find? (·.1 == "ttl") = some ("ttl", .lenient, .fallback (.int 0)) := rfl

/-- A slot read from an object has as lifetime the lenient value of its first `ttl` member,
`0` when there is none. -/
theorem ttl_of_obj {tape : Array TapeNode} {fuel k k' : Nat} {members : List (String × Json)}
    {d : Json} (hlaid : NodesAt tape k (Json.obj members).tape)
    (h : decodeAt tape fuel schema k = .ok (d, k')) :
    (ofJson d).ttl = lenientMember members "ttl" := by
  rw [schema_eq] at h
  -- the `ttl` member put together is an integer, never `null`
  have hget := get?_record_obj_lenient fields_kept keys_nodup find?_ttl hlaid
    (readToEnd_of_readsWhole fields_readsWhole members) h
  simp only [ofJson, member?, Json.field?, hget]
  rfl

/-- A slot read from an object stops after the object. -/
lemma endsAfter_obj {tape : Array TapeNode} {k : Nat} {members : List (String × Json)}
    (hlaid : NodesAt tape k (Json.obj members).tape) :
    EndsAfter tape schema k (Json.obj members).tape.length := by
  intro fuel d k' h
  rw [schema_eq] at h
  exact (decodeAt_record_obj find?_ttl lenient_reads_lenientValue hlaid
    (readToEnd_of_readsWhole fields_readsWhole members) h).1

/-- A slot read from a document, not given as an array of more items than a slot has fields,
stops after the document. -/
lemma endsAfter {tape : Array TapeNode} {k : Nat} {v : Json} (hlaid : NodesAt tape k v.tape)
    (hfit : ∀ xs, v = .arr xs → xs.length ≤ fields.length) :
    EndsAfter tape schema k v.tape.length := by
  cases v
  case obj members => exact endsAfter_obj hlaid
  case arr xs =>
    rw [schema_eq]
    exact decodeAt_record_arr_end fields_readsWhole (hfit xs rfl) hlaid
  all_goals
    intro fuel d k' h
    rw [schema_eq] at h
    exact absurd h (decodeAt_record_scalar hlaid.cons.1 d k')

end WireSlot

/-- No slot of a response is given as an array of more items than a slot has fields. -/
def SlotsFit (members : List (String × Json)) : Prop :=
  ∀ m ∈ members, m.1 = "slots" → ∀ items, m.2 = .arr items →
    ∀ x ∈ items, ∀ xs, x = .arr xs → xs.length ≤ WireSlot.fields.length

namespace WireResponse

/-- The fields of a response. -/
def fields : List (String × Schema × FieldRule) :=
  [("slots", .list WireSlot.schema, .fallback (.arr [])),
   ("timeToNextCall", .lenient, .fallback (.int 0))]

lemma schema_eq : schema = .record "CdbResponse" fields := rfl

lemma keys_nodup : (fields.map (·.1)).Nodup := by
  decide

lemma fields_kept : ∀ f ∈ fields,
    (∃ d, f.2.2 = .fallback d) ∨ (f.2.2 = .required ∧ f.2.1.isOptional = true) := by
  intro f hf
  simp only [fields, List.mem_cons, List.not_mem_nil, or_false] at hf
  rcases hf with rfl | rfl
  all_goals exact Or.inl ⟨_, rfl⟩

lemma find?_timeToNextCall :
    fields.find? (·.1 == "timeToNextCall") =
      some ("timeToNextCall", .lenient, .fallback (.int 0)) := rfl

/-- In a response whose slots fit, every member that is a field is read to its end. -/
lemma readToEnd {tape : Array TapeNode} {members : List (String × Json)} (hfit : SlotsFit members) :
    ReadToEnd tape fields members := by
  intro m hm f hf hkey k hlaid
  simp only [fields, List.mem_cons, List.not_mem_nil, or_false] at hf
  rcases hf with rfl | rfl
  case inl =>
    -- the slots: a list read to its end when every slot fits, refused unless an array
    obtain ⟨key, v⟩ := m
    have hslots : key = "slots" := hkey.symm
    cases v
    case arr items =>
      exact decodeAt_list_end hlaid fun x hx k' hx' =>
        WireSlot.endsAfter hx' (hfit _ hm hslots items rfl x hx)
    case obj ms =>
      intro fuel d k' h
      exact absurd h (decodeAt_list_not_arr hlaid.cons.1 (by simp) d k')
    all_goals
      intro fuel d k' h
      exact absurd h (decodeAt_list_not_arr hlaid.cons.1 (by simp) d k')
  case inr => exact endsAfter_of_readsWhole rfl hlaid

/-- A response read from an object whose slots fit pauses for the lenient value of its first
`timeToNextCall` member, `0` when there is none. -/
theorem timeToNextCall_of_obj {tape : Array TapeNode} {fuel k k' : Nat}
    {members : List (String × Json)} {d : Json} (hlaid : NodesAt tape k (Json.obj members).tape)
    (hfit : SlotsFit members) (h : decodeAt tape fuel schema k = .ok (d, k')) :
    (ofJson d).timeToNextCall = lenientMember members "timeToNextCall" := by
  rw [schema_eq] at h
  have hget := get?_record_obj_lenient fields_kept keys_nodup find?_timeToNextCall hlaid
    (readToEnd hfit) h
  simp only [ofJson, hget]
  rfl

/-- A body whose document is an object whose slots fit reads, by the response schema, as a
response that pauses for the lenient value of its first `timeToNextCall` member, `0` when there
is none. -/
theorem timeToNextCall_of_readTape {src : ByteArray} {members : List (String × Json)} {d : Json}
    (hdoc : Json.readIndexed src = .ok (.obj members)) (hfit : SlotsFit members)
    (h : readTape schema src = .ok d) :
    (ofJson d).timeToNextCall = lenientMember members "timeToNextCall" := by
  have hlaid : NodesAt (Json.obj members).tape.toArray 0 (Json.obj members).tape := by
    simp [NodesAt]
  unfold readTape at h
  rw [hdoc] at h
  simp only [bind, Except.bind] at h
  split at h
  case h_1 => cases h
  case h_2 r hread =>
    obtain ⟨d', k'⟩ := r
    obtain rfl : d' = d := Except.ok.inj h
    exact timeToNextCall_of_obj hlaid hfit hread

end WireResponse

/-! ### Lenient integers in responses -/

/-- Lenient integers never make a response fail to read: the field is the lenient value of its
member (`0` without one), a text going through binary64, and always a signed 64-bit integer. -/
theorem lenient_integers_read_every_document :
    (∀ (tape : Array TapeNode) (fuel k : Nat) (v : Json), NodesAt tape k v.tape →
      decodeAt tape (fuel + 1) .lenient k = .ok (.int (lenientValue v), k + v.tape.length)) ∧
    (∀ (tape : Array TapeNode) (fuel k k' : Nat) (members : List (String × Json)) (d : Json),
      NodesAt tape k (Json.obj members).tape → decodeAt tape fuel WireSlot.schema k = .ok (d, k') →
      (WireSlot.ofJson d).ttl = lenientMember members "ttl") ∧
    (∀ (src : ByteArray) (members : List (String × Json)) (d : Json),
      Json.readIndexed src = .ok (.obj members) → SlotsFit members →
      readTape WireResponse.schema src = .ok d →
      (WireResponse.ofJson d).timeToNextCall = lenientMember members "timeToNextCall") ∧
    (∀ i : Int, lenientValue (.int i) = Decimal.clampInt64 i) ∧
    (∀ f : Float, lenientValue (.float f) = Decimal.truncInt64 f) ∧
    (∀ (s : String) (n : Int),
      Decimal.readInt? IntKind.i64.lo IntKind.i64.hi (Text.trimBlank s) = some n →
      lenientValue (.str s) = Decimal.clampInt64 (if n < 0
        then -(Decimal.roundToBinary64 n.natAbs : Int) else Decimal.roundToBinary64 n.natAbs) ∧
      (n.natAbs ≤ 9007199254740992 → lenientValue (.str s) = n)) ∧
    (∀ s : String, lenientValue (.str s) =
      ((Decimal.readFloat? (Text.trimBlank s)).map Decimal.truncInt64).getD 0) ∧
    (lenientValue .null = 0 ∧ (∀ b, lenientValue (.bool b) = 0) ∧
      (∀ items, lenientValue (.arr items) = 0) ∧ (∀ members, lenientValue (.obj members) = 0)) ∧
    (∀ j : Json, Decimal.int64Min ≤ lenientValue j ∧ lenientValue j ≤ Decimal.int64Max) := by
  refine ⟨fun tape fuel k v hv => decodeAt_lenient_of_nodesAt hv,
    fun tape fuel k k' members d hlaid h => WireSlot.ttl_of_obj hlaid h,
    fun src members d hdoc hfit h => WireResponse.timeToNextCall_of_readTape hdoc hfit h,
    lenientValue_int, fun f => rfl,
    fun s n h => ⟨lenientValue_str_of_readInt? h, lenientValue_str_of_readInt?_of_le h⟩,
    fun s => ?_, ⟨rfl, fun b => rfl, fun items => rfl, fun members => rfl⟩, lenientValue_mem⟩
  -- any text is read as a float, or is `0`
  simp only [lenientValue]
  cases Decimal.readFloat? (Text.trimBlank s) <;> rfl

/-- The body of the source's test response: one slot with lifetime `30.0`, and a pause given as
the text `"7"`. -/
def testResponseBody : String :=
  "\x7b\"slots\":[\x7b\"placementId\":\"a\",\"cpm\":1.5,\"ttl\":30.0,\"displayUrl\":\"https://x\"\x7d]," ++
    "\"timeToNextCall\":\"7\"\x7d"

/-- The members of the slot of `testResponseBody`. -/
def testSlotMembers : List (String × Json) :=
  [("placementId", .str "a"), ("cpm", .float 1.5), ("ttl", .float 30.0),
    ("displayUrl", .str "https://x")]

set_option maxRecDepth 20000 in
/-- Lenient integers in the source's test response: read through the response schema, its pause
`"7"` is `7`; its slot, read through the slot schema, lasts `30`; the text `45` is `45`, and
`null` and an object are `0`. -/
theorem lenient_integers_of_the_test_response :
    ((readTape WireResponse.schema testResponseBody.toUTF8).map fun d =>
        (WireResponse.ofJson d).timeToNextCall) = .ok 7 ∧
    ((decodeAt (Json.obj testSlotMembers).tape.toArray 100 WireSlot.schema 0).map fun p =>
        (WireSlot.ofJson p.1).ttl) = .ok 30 ∧
    Decimal.readInt? IntKind.i64.lo IntKind.i64.hi (Text.trimBlank "45") = some 45 ∧
      lenientValue (.str "45") = 45 ∧ lenientValue .null = 0 ∧
      lenientValue (.obj [("bogus", .int 1)]) = 0 := by
  have hdoc : Json.readIndexed testResponseBody.toUTF8 =
      .ok (.obj [("slots", .arr [.obj testSlotMembers]), ("timeToNextCall", .str "7")]) := by
    with_unfolding_all rfl
  have hfit : SlotsFit [("slots", .arr [.obj testSlotMembers]), ("timeToNextCall", .str "7")] := by
    simp [SlotsFit, testSlotMembers]
  have hlaid : NodesAt (Json.obj testSlotMembers).tape.toArray 0 (Json.obj testSlotMembers).tape := by
    simp [NodesAt]
  have hread : Decimal.readInt? IntKind.i64.lo IntKind.i64.hi (Text.trimBlank "45") = some 45 := by
    decide +kernel
  obtain ⟨-, hslot, hresponse, -, -, htext, -, ⟨hnull, -, -, hobj⟩, -⟩ :=
    lenient_integers_read_every_document
  refine ⟨?_, ?_, hread, (htext "45" 45 hread).2 (by decide), hnull, hobj _⟩
  · cases hd : readTape WireResponse.schema testResponseBody.toUTF8 with
    | error e =>
      have hok : (readTape WireResponse.schema testResponseBody.toUTF8).isOk = true := by
        rw [readTape, hdoc]
        simp [testSlotMembers, decodeAt, tapeMembers, tapeItems, treeAt, readHeld, assemble,
          Json.tape, Json.membersTape, Json.itemsTape, WireResponse.schema, WireSlot.schema,
          Cpm.schema, decode, depthAllowance, firstFit, Json.asFloat, missingValue,
          Schema.isOptional, bind, Except.bind, pure, Except.pure, Except.isOk, Except.toBool]
      rw [hd] at hok
      cases hok
    | ok d =>
      have hpause : lenientMember [("slots", .arr [.obj testSlotMembers]),
          ("timeToNextCall", .str "7")] "timeToNextCall" = 7 := by
        decide +kernel
      rw [Except.map, hresponse _ _ d hdoc hfit hd, hpause]
  · cases hd : decodeAt (Json.obj testSlotMembers).tape.toArray 100 WireSlot.schema 0 with
    | error e =>
      have hok : (decodeAt (Json.obj testSlotMembers).tape.toArray 100 WireSlot.schema 0).isOk =
          true := by
        simp [testSlotMembers, decodeAt, tapeMembers, treeAt, readHeld, assemble, Json.tape,
          Json.membersTape, WireSlot.schema, Cpm.schema, decode, depthAllowance, firstFit,
          Json.asFloat, missingValue, Schema.isOptional, bind, Except.bind, pure, Except.pure,
          Except.isOk, Except.toBool]
      rw [hd] at hok
      cases hok
    | ok p =>
      have hlife : lenientMember testSlotMembers "ttl" = 30 := by
        decide +kernel
      rw [Except.map, hslot _ _ _ _ _ p.1 hlaid hd, hlife]

/-- A response whose one slot is an array of ten items, one more than a slot has fields,
followed by a pause of `7`. -/
def oversizedSlotBody : String :=
  "\x7b\"slots\":[[null,null,null,null,0,0,0,null,null,\"x\"]],\"timeToNextCall\":7\x7d"

/-- The members of `oversizedSlotBody`. -/
def oversizedSlotMembers : List (String × Json) :=
  [("slots", .arr [.arr [.null, .null, .null, .null, .int 0, .int 0, .int 0, .null, .null,
    .str "x"]]), ("timeToNextCall", .int 7)]

set_option maxRecDepth 20000 in
/-- A slot given as an array of ten items leaves its last item to be read as the response's next
member: the response pauses for `0` although its `timeToNextCall` member is `7`. -/
theorem oversized_slot_array_hides_the_pause :
    Json.readIndexed oversizedSlotBody.toUTF8 = .ok (.obj oversizedSlotMembers) ∧
    lenientMember oversizedSlotMembers "timeToNextCall" = 7 ∧
    ((readTape WireResponse.schema oversizedSlotBody.toUTF8).map fun d =>
      (WireResponse.ofJson d).timeToNextCall) = .ok 0 := by
  have hdoc : Json.readIndexed oversizedSlotBody.toUTF8 = .ok (.obj oversizedSlotMembers) := by
    with_unfolding_all rfl
  refine ⟨hdoc, by decide +kernel, ?_⟩
  -- the surplus item `"x"` is met as a key, and the pause after it skipped as its value
  rw [readTape, hdoc]
  simp [oversizedSlotMembers, decodeAt, tapeMembers, tapeItems, tapePositional, treeAt, skipAt,
    readHeld, assemble, Json.tape, Json.membersTape, Json.itemsTape, WireResponse.schema,
    WireSlot.schema, Cpm.schema, decode, depthAllowance, missingValue, Schema.isOptional, bind,
    Except.bind, pure, Except.pure, Except.map, WireResponse.ofJson, Json.get?, Json.getInt?,
    IntKind.holds, IntKind.lo, IntKind.hi]

/-- The text of `2 ^ 53 + 1` is the lenient integer `2 ^ 53`, while the number `2 ^ 53 + 1` is
itself. -/
theorem integer_text_beyond_two_pow_53_is_rounded :
    lenientValue (.str "9007199254740993") = 9007199254740992 ∧
      lenientValue (.int 9007199254740993) = 9007199254740993 := by
  have hread : Decimal.readInt? IntKind.i64.lo IntKind.i64.hi (Text.trimBlank "9007199254740993") =
      some 9007199254740993 := by
    decide +kernel
  have hround : Decimal.roundToBinary64 9007199254740993 = 9007199254740992 := by
    decide
  constructor
  · rw [lenientValue_str_of_readInt? hread, if_neg (by decide)]
    have habs : (9007199254740993 : Int).natAbs = 9007199254740993 := rfl
    rw [habs, hround]
    exact Decimal.clampInt64_of_natAbs_lt (by decide)
  · rw [lenientValue_int]
    exact Decimal.clampInt64_of_natAbs_lt (by decide)

end HeaderBidding
