import Mathlib.Tactic.Lemma
import HeaderBidding.Schema.Tape
import HeaderBidding.Proofs.CompactText

/-!
# Documents read back from their tape

`Schema.readTape` lays a document out as its tape (`Json.tape`) and reads the tape node by node
by a schema. `NodesAt tape k nodes` says that the tape holds `nodes` from position `k` on; this
file follows the reader over nodes laid out that way.

- A document laid out at `k` reads back, and the reader stops right after its nodes
  (`treeAt_of_nodesAt`). So a lenient integer reads whatever document stands at its node, as
  the lenient value of that document (`decodeAt_lenient_of_nodesAt`).
- A schema read as one whole document (`readsWhole`) stops after the document it read
  (`decodeAt_end_of_readsWhole`), and so does a list whose items are each read to their end
  (`decodeAt_list_end`), and a record read from an array of no more items than it has fields
  (`decodeAt_record_arr_end`).
- A record read from an object whose members are each read to their end stops after the
  object, and a field whose reader gives a function of its document holds that function of the
  first member with its key (`decodeAt_record_obj`).
- A record whose every field has a value when absent puts together one member per field
  (`assemble_kept`).

A record read from an array of more items than it has fields leaves the surplus items where
the next step meets them, in place of what the document holds there: none of the statements
above covers that case.
-/

namespace HeaderBidding

namespace Json

lemma length_tape_pos (j : Json) : 0 < j.tape.length := by
  cases j <;> simp [tape]

@[simp] lemma tape_arr (items : List Json) :
    (Json.arr items).tape = .array items.length :: itemsTape items := by
  simp [tape]

@[simp] lemma tape_obj (members : List (String × Json)) :
    (Json.obj members).tape = .object members.length :: membersTape members := by
  simp [tape]

@[simp] lemma itemsTape_nil : itemsTape [] = [] := by
  simp [itemsTape]

@[simp] lemma itemsTape_cons (j : Json) (rest : List Json) :
    itemsTape (j :: rest) = j.tape ++ itemsTape rest := by
  simp [itemsTape]

@[simp] lemma membersTape_nil : membersTape [] = [] := by
  simp [membersTape]

@[simp] lemma membersTape_cons (k : String) (v : Json) (rest : List (String × Json)) :
    membersTape ((k, v) :: rest) = .scalar (.str k) :: (v.tape ++ membersTape rest) := by
  simp [membersTape]

end Json

namespace Schema

open Json

/-! ### Nodes at a position -/

/-- The tape holds the nodes `nodes` from position `k` on. -/
def NodesAt (tape : Array TapeNode) (k : Nat) (nodes : List TapeNode) : Prop :=
  nodes <+: tape.toList.drop k

variable {tape : Array TapeNode}

lemma NodesAt.cons {k : Nat} {n : TapeNode} {ns : List TapeNode} (h : NodesAt tape k (n :: ns)) :
    tape[k]? = some n ∧ NodesAt tape (k + 1) ns := by
  obtain ⟨rest, hrest⟩ := h
  constructor
  · rw [← Array.getElem?_toList, ← Nat.add_zero k, ← List.getElem?_drop, ← hrest]
    rfl
  · refine ⟨rest, ?_⟩
    rw [← List.drop_drop, ← hrest]
    rfl

lemma NodesAt.append {k : Nat} {xs ys : List TapeNode} (h : NodesAt tape k (xs ++ ys)) :
    NodesAt tape k xs ∧ NodesAt tape (k + xs.length) ys := by
  obtain ⟨rest, hrest⟩ := h
  refine ⟨⟨ys ++ rest, by rw [← hrest, List.append_assoc]⟩, rest, ?_⟩
  rw [← List.drop_drop, ← hrest, List.append_assoc, List.drop_left]

lemma NodesAt.length_le {k : Nat} {nodes : List TapeNode} (h : NodesAt tape k nodes) :
    nodes.length ≤ tape.size :=
  calc nodes.length ≤ (tape.toList.drop k).length := List.IsPrefix.length_le h
    _ ≤ tape.size := by simp

/-- A document whose first node is a scalar is that one node. -/
lemma length_tape_of_scalar {k : Nat} {v j : Json} (hv : NodesAt tape k v.tape)
    (hk : tape[k]? = some (.scalar j)) : v.tape.length = 1 := by
  cases v
  case arr items =>
    rw [tape_arr] at hv
    have hnode := hv.cons.1.symm.trans hk
    simp at hnode
  case obj members =>
    rw [tape_obj] at hv
    have hnode := hv.cons.1.symm.trans hk
    simp at hnode
  all_goals rfl

/-! ### Documents -/

lemma treeAt_succ_scalar {fuel k : Nat} {j : Json} (h : tape[k]? = some (.scalar j)) :
    treeAt tape (fuel + 1) k = .ok (j, k + 1) := by
  simp only [treeAt, h]

/-- A document laid out at `k` reads back from its nodes, given fuel of twice its length. The
induction is on the fuel, for documents, items and members at once: a list takes one unit of
fuel per item on top of what its longest item takes. -/
theorem treeAt_of_nodesAt : ∀ fuel : Nat,
    (∀ (j : Json) (k : Nat), NodesAt tape k j.tape → 2 * j.tape.length ≤ fuel →
      treeAt tape fuel k = .ok (j, k + j.tape.length)) ∧
    (∀ (items : List Json) (k : Nat) (acc : List Json), NodesAt tape k (itemsTape items) →
      2 * (itemsTape items).length + 1 ≤ fuel →
      treeItems tape fuel items.length k acc =
        .ok (.arr (acc.reverse ++ items), k + (itemsTape items).length)) ∧
    (∀ (members : List (String × Json)) (k : Nat) (acc : List (String × Json)),
      NodesAt tape k (membersTape members) → 2 * (membersTape members).length + 1 ≤ fuel →
      treeMembers tape fuel members.length k acc =
        .ok (.obj (acc.reverse ++ members), k + (membersTape members).length))
  | 0 => by
    refine ⟨fun j _ _ hfuel => ?_, fun _ _ _ _ hfuel => ?_, fun _ _ _ _ hfuel => ?_⟩
    · exact absurd hfuel (by have := length_tape_pos j; omega)
    all_goals omega
  | fuel + 1 => by
    obtain ⟨ihTree, ihItems, ihMembers⟩ := treeAt_of_nodesAt fuel
    refine ⟨fun j k hj hfuel => ?_, fun items k acc hitems hfuel => ?_,
      fun members k acc hmembers hfuel => ?_⟩
    · cases j
      case arr items =>
        rw [tape_arr] at hj hfuel
        obtain ⟨hk, hitems⟩ := hj.cons
        simp only [List.length_cons] at hfuel
        simp only [treeAt, hk, ihItems items (k + 1) [] hitems (by omega), tape_arr,
          List.reverse_nil, List.nil_append, List.length_cons]
        congr 2
        omega
      case obj members =>
        rw [tape_obj] at hj hfuel
        obtain ⟨hk, hmembers⟩ := hj.cons
        simp only [List.length_cons] at hfuel
        simp only [treeAt, hk, ihMembers members (k + 1) [] hmembers (by omega), tape_obj,
          List.reverse_nil, List.nil_append, List.length_cons]
        congr 2
        omega
      all_goals exact treeAt_succ_scalar hj.cons.1
    · cases items with
      | nil => simp only [List.length_nil, treeItems, List.append_nil, itemsTape_nil, Nat.add_zero]
      | cons j rest =>
        rw [itemsTape_cons] at hitems hfuel
        obtain ⟨hj, hrest⟩ := hitems.append
        have hpos := length_tape_pos j
        simp only [List.length_append] at hfuel
        simp only [List.length_cons, treeItems, ihTree j k hj (by omega),
          ihItems rest (k + j.tape.length) (j :: acc) hrest (by omega), itemsTape_cons,
          List.reverse_cons, List.append_assoc, List.singleton_append, List.length_append,
          Nat.add_assoc]
    · cases members with
      | nil =>
        simp only [List.length_nil, treeMembers, List.append_nil, membersTape_nil, Nat.add_zero]
      | cons m rest =>
        obtain ⟨key, v⟩ := m
        rw [membersTape_cons] at hmembers hfuel
        obtain ⟨hk, hafter⟩ := hmembers.cons
        obtain ⟨hv, hrest⟩ := hafter.append
        have hpos := length_tape_pos v
        simp only [List.length_cons, List.length_append] at hfuel
        simp only [List.length_cons, treeMembers, hk, ihTree v (k + 1) hv (by omega),
          ihMembers rest (k + 1 + v.tape.length) ((key, v) :: acc) hrest (by omega),
          membersTape_cons, List.reverse_cons, List.append_assoc, List.singleton_append,
          List.length_cons, List.length_append]
        congr 2
        omega

/-- With the fuel the reader gives it, a document laid out at `k` reads back. -/
lemma treeAt_whole {k : Nat} {v : Json} (hv : NodesAt tape k v.tape) :
    treeAt tape (2 * tape.size + 2) k = .ok (v, k + v.tape.length) :=
  (treeAt_of_nodesAt _).1 v k hv (by have := hv.length_le; omega)

lemma skipAt_of_nodesAt {k : Nat} {v : Json} (hv : NodesAt tape k v.tape) :
    skipAt tape k = .ok (k + v.tape.length) := by
  rw [skipAt, treeAt_whole hv]
  rfl

/-! ### Lenient integers -/

lemma readHeld_lenient (j : Json) : readHeld .lenient j = .ok (.int (lenientValue j)) := by
  simp [readHeld, depthAllowance, decode]

/-- A lenient integer reads the document at its node, whatever it is, as its lenient value. -/
lemma decodeAt_lenient (tape : Array TapeNode) (fuel k : Nat) :
    decodeAt tape (fuel + 1) .lenient k =
      (treeAt tape (2 * tape.size + 2) k).map fun e => (.int (lenientValue e.1), e.2) := by
  simp only [decodeAt]
  cases treeAt tape (2 * tape.size + 2) k with
  | error e => rfl
  | ok r => simp [readHeld_lenient, Except.map]

lemma decodeAt_lenient_of_nodesAt {fuel k : Nat} {v : Json} (hv : NodesAt tape k v.tape) :
    decodeAt tape (fuel + 1) .lenient k = .ok (.int (lenientValue v), k + v.tape.length) := by
  rw [decodeAt_lenient, treeAt_whole hv]
  rfl

/-! ### Readers that stop after the document they read -/

/-- Schemas whose reader takes one whole document from the tape: the scalars, and the unions,
codes, identifiers, lenient integers and kept documents, read through the document as a
whole. -/
def readsWhole : Schema → Bool
  | .optional s => s.readsWhole
  | .list _ | .record .. => false
  | _ => true

/-- Whenever reading `s` from `k` succeeds, it stops right after the `n` nodes there. -/
def EndsAfter (tape : Array TapeNode) (s : Schema) (k n : Nat) : Prop :=
  ∀ fuel d k', decodeAt tape fuel s k = .ok (d, k') → k' = k + n

/-- A schema read as one whole document stops after the document laid out at its node. The
induction is on the fuel, which only an optional schema passes on. -/
theorem decodeAt_end_of_readsWhole : ∀ {fuel : Nat} {s : Schema} {k k' : Nat} {v d : Json},
    s.readsWhole = true → NodesAt tape k v.tape → decodeAt tape fuel s k = .ok (d, k') →
    k' = k + v.tape.length
  | 0, _, _, _, _, _, _, _, h => by simp [decodeAt] at h
  | fuel + 1, s, k, k', v, d, hs, hv, h => by
    -- a reader that takes one scalar node has taken the whole document
    have hone : ∀ {j : Json} {e : Json}, tape[k]? = some (.scalar j) →
        (Except.ok (e, k + 1) : Except IndexError (Json × Nat)) = .ok (d, k') →
        k' = k + v.tape.length := fun hj he => by
      rw [length_tape_of_scalar hv hj]
      simp only [Except.ok.injEq, Prod.mk.injEq] at he
      exact he.2.symm
    unfold decodeAt at h
    split at h
    case h_1 _ _ _ hk | h_3 _ _ _ hk | h_7 _ _ _ hk | h_8 _ _ _ hk | h_10 _ _ _ hk =>
      exact hone hk h
    case h_5 _ _ _ _ hk =>
      split at h
      · exact hone hk h
      · cases h
    case h_11 inner _ =>
      have hinner : inner.readsWhole = true := hs
      exact decodeAt_end_of_readsWhole hinner hv h
    case h_12 | h_14 | h_15 => simp [readsWhole] at hs
    case h_17 =>
      -- the unions, codes, identifiers and kept documents read the whole document
      rw [treeAt_whole hv] at h
      simp only at h
      split at h
      · simp only [Except.ok.injEq, Prod.mk.injEq] at h
        exact h.2.symm
      · cases h
    all_goals cases h

lemma endsAfter_of_readsWhole {s : Schema} {k : Nat} {v : Json} (hs : s.readsWhole = true)
    (hv : NodesAt tape k v.tape) : EndsAfter tape s k v.tape.length :=
  fun _ _ _ h => decodeAt_end_of_readsWhole hs hv h

/-! ### Lists -/

/-- Items each read to their end are read one after the other to the end of the last. -/
theorem tapeItems_end {item : Schema} :
    ∀ {items : List Json} {fuel k k' : Nat} {acc : List Json} {d : Json},
      NodesAt tape k (itemsTape items) →
      (∀ x ∈ items, ∀ k, NodesAt tape k x.tape → EndsAfter tape item k x.tape.length) →
      tapeItems tape fuel item items.length k acc = .ok (d, k') →
      k' = k + (itemsTape items).length
  | _, 0, _, _, _, _, _, _, h => by simp [tapeItems] at h
  | [], fuel + 1, k, k', acc, d, _, _, h => by
    simp only [List.length_nil, tapeItems, Except.ok.injEq, Prod.mk.injEq] at h
    simp [h.2]
  | x :: rest, fuel + 1, k, k', acc, d, hlaid, hend, h => by
    rw [itemsTape_cons] at hlaid
    obtain ⟨hx, hrest⟩ := hlaid.append
    simp only [List.length_cons, tapeItems] at h
    split at h
    case h_1 => cases h
    case h_2 dx k'' hdx =>
      have hk'' : k'' = k + x.tape.length := hend x List.mem_cons_self k hx fuel dx k'' hdx
      subst hk''
      have hrestEnd := tapeItems_end hrest (fun y hy => hend y (List.mem_cons_of_mem _ hy)) h
      rw [hrestEnd, itemsTape_cons, List.length_append, Nat.add_assoc]

/-- A list read from an array whose items are each read to their end stops after the array. -/
lemma decodeAt_list_end {item : Schema} {k : Nat} {items : List Json}
    (hlaid : NodesAt tape k (Json.arr items).tape)
    (hend : ∀ x ∈ items, ∀ k, NodesAt tape k x.tape → EndsAfter tape item k x.tape.length) :
    EndsAfter tape (.list item) k (Json.arr items).tape.length := by
  intro fuel d k' h
  rw [tape_arr] at hlaid
  obtain ⟨hk, hitems⟩ := hlaid.cons
  cases fuel with
  | zero => simp [decodeAt] at h
  | succ fuel =>
    unfold decodeAt at h
    simp only [hk] at h
    rw [tapeItems_end hitems hend h, tape_arr, List.length_cons]
    omega

/-- A list read from a node that is not an array is refused. -/
lemma decodeAt_list_not_arr {item : Schema} {fuel k : Nat} {node : TapeNode}
    (hk : tape[k]? = some node) (hnode : ∀ n, node ≠ .array n) :
    ∀ d k', decodeAt tape fuel (.list item) k ≠ .ok (d, k') := by
  intro d k' h
  cases fuel with
  | zero => simp [decodeAt] at h
  | succ fuel =>
    unfold decodeAt at h
    rw [hk] at h
    cases node
    case array n => exact hnode n rfl
    all_goals simp at h

/-! ### Records -/

/-- Every member that is a field of the record is read to its end, wherever it stands. -/
def ReadToEnd (tape : Array TapeNode) (fields : List (String × Schema × FieldRule))
    (members : List (String × Json)) : Prop :=
  ∀ m ∈ members, ∀ f ∈ fields, f.1 = m.1 → ∀ k, NodesAt tape k m.2.tape →
    EndsAfter tape f.2.1 k m.2.tape.length

lemma readToEnd_of_readsWhole {fields : List (String × Schema × FieldRule)}
    (hwhole : ∀ f ∈ fields, f.2.1.readsWhole = true) (members : List (String × Json)) :
    ReadToEnd tape fields members :=
  fun _ _ f hf _ _ hv => endsAfter_of_readsWhole (hwhole f hf) hv

section Members

variable {fields : List (String × Schema × FieldRule)} {key : String} {fs : Schema}
  {rule : FieldRule} {g : Json → Json}

/-- The members of an object, each read to its end, are read to the end of the last; the field
`key`, whose reader gives `g` of its document, is found for the first member with that key,
unless it was found before. -/
theorem tapeMembers_of_nodesAt (hkey : fields.find? (·.1 == key) = some (key, fs, rule))
    (hg : ∀ {fuel k k' : Nat} {v d : Json}, NodesAt tape k v.tape →
      decodeAt tape fuel fs k = .ok (d, k') → d = g v) :
    ∀ {members : List (String × Json)} {fuel k k' : Nat} {found found' : List (String × Json)},
      NodesAt tape k (membersTape members) → ReadToEnd tape fields members →
      tapeMembers tape fuel fields members.length k found = .ok (found', k') →
      k' = k + (membersTape members).length ∧
      found'.find? (·.1 == key) =
        (found.find? (·.1 == key)).or ((members.find? (·.1 == key)).map fun m => (key, g m.2))
  | _, 0, _, _, _, _, _, _, h => by simp [tapeMembers] at h
  | [], fuel + 1, k, k', found, found', _, _, h => by
    simp only [List.length_nil, tapeMembers, Except.ok.injEq, Prod.mk.injEq] at h
    obtain ⟨rfl, rfl⟩ := h
    simp
  | (key', v) :: rest, fuel + 1, k, k', found, found', hlaid, hend, h => by
    rw [membersTape_cons] at hlaid
    obtain ⟨hk, hafter⟩ := hlaid.cons
    obtain ⟨hv, hrest⟩ := hafter.append
    have hendRest : ReadToEnd tape fields rest :=
      fun m hm => hend m (List.mem_cons_of_mem _ hm)
    have hlen : (membersTape ((key', v) :: rest)).length =
        1 + v.tape.length + (membersTape rest).length := by
      simp only [membersTape_cons, List.length_cons, List.length_append]
      omega
    simp only [List.length_cons, tapeMembers, hk] at h
    split at h
    case h_1 _ key'' fs' rule' hf =>
      -- a field: refused when met twice, else read to its end
      have hmem : (key'', fs', rule') ∈ fields := List.mem_of_find?_eq_some hf
      have hsame : key'' = key' := by simpa using List.find?_some hf
      split at h
      case isTrue => cases h
      case isFalse hfresh =>
        split at h
        case h_1 => cases h
        case h_2 d k'' hd =>
          have hk'' : k'' = k + 1 + v.tape.length :=
            hend (key', v) List.mem_cons_self _ hmem hsame (k + 1) hv fuel d k'' hd
          subst hk''
          obtain ⟨hpos, hfind⟩ := tapeMembers_of_nodesAt hkey hg hrest hendRest h
          refine ⟨by rw [hpos, hlen]; omega, ?_⟩
          rw [hfind, List.find?_append]
          by_cases hkk : key' = key
          case pos =>
            -- the member read is the first with the key: it was not found before
            subst hkk
            rw [hkey] at hf
            obtain ⟨-, rfl, -⟩ := Prod.mk.inj (Option.some.inj hf)
            have hnone : found.find? (·.1 == key') = none := by
              rw [List.find?_eq_none]
              intro m hm hkm
              exact hfresh (List.any_eq_true.mpr ⟨m, hm, hkm⟩)
            simp [hnone, hg hv hd]
          case neg =>
            have hne : (key' == key) = false := by simpa using hkk
            simp [hne]
    case h_2 hnone =>
      -- not a field: skipped with everything under it
      rw [skipAt_of_nodesAt hv] at h
      simp only at h
      obtain ⟨hpos, hfind⟩ := tapeMembers_of_nodesAt hkey hg hrest hendRest h
      have hne : (key' == key) = false := by
        simp only [beq_eq_false_iff_ne]
        rintro rfl
        rw [hkey] at hnone
        cases hnone
      refine ⟨by rw [hpos, hlen]; omega, ?_⟩
      rw [hfind]
      simp [hne]

/-- A record read from an object whose members are each read to their end stops after the
object, and puts together the members found, where the field `key` is found for the first
member with that key. -/
theorem decodeAt_record_obj {name : String} {members : List (String × Json)} {fuel k k' : Nat}
    {d : Json} (hkey : fields.find? (·.1 == key) = some (key, fs, rule))
    (hg : ∀ {fuel k k' : Nat} {v d : Json}, NodesAt tape k v.tape →
      decodeAt tape fuel fs k = .ok (d, k') → d = g v)
    (hlaid : NodesAt tape k (Json.obj members).tape) (hend : ReadToEnd tape fields members)
    (h : decodeAt tape fuel (.record name fields) k = .ok (d, k')) :
    k' = k + (Json.obj members).tape.length ∧
      ∃ found out, found.find? (·.1 == key) = (members.find? (·.1 == key)).map (fun m => (key, g m.2)) ∧
        assemble fields found = .ok out ∧ d = .obj out := by
  rw [tape_obj] at hlaid
  obtain ⟨hk, hmembers⟩ := hlaid.cons
  cases fuel with
  | zero => simp [decodeAt] at h
  | succ fuel =>
    unfold decodeAt at h
    simp only [hk] at h
    split at h
    case h_1 => cases h
    case h_2 found k'' hread =>
      obtain ⟨hpos, hfind⟩ := tapeMembers_of_nodesAt hkey hg hmembers hend hread
      split at h
      case h_1 out hout =>
        simp only [Except.ok.injEq, Prod.mk.injEq] at h
        obtain ⟨rfl, rfl⟩ := h
        refine ⟨by rw [hpos, tape_obj, List.length_cons]; omega, found, out, ?_, hout, rfl⟩
        simpa using hfind
      case h_2 => cases h

end Members

/-- The fields from the `i`-th on of a record read from an array of `n` items that are each read
as one whole document: the reader stops after the last item, when there are no more items than
fields. -/
theorem tapePositional_end {name : String} {count : Nat} {items : List Json} :
    ∀ {rest : List (String × Schema × FieldRule)} {fuel i k k' : Nat}
      {found found' : List (String × Json)},
      (∀ f ∈ rest, f.2.1.readsWhole = true) → NodesAt tape k (itemsTape (items.drop i)) →
      items.length ≤ i + rest.length →
      tapePositional tape fuel name count items.length rest i k found = .ok (found', k') →
      k' = k + (itemsTape (items.drop i)).length
  | _, 0, _, _, _, _, _, _, _, _, h => by simp [tapePositional] at h
  | [], fuel + 1, i, k, k', found, found', _, _, hfit, h => by
    simp only [tapePositional, Except.ok.injEq, Prod.mk.injEq] at h
    have hdrop : items.drop i = [] := List.drop_eq_nil_of_le (by simpa using hfit)
    rw [hdrop, ← h.2]
    simp
  | (key, s, rule) :: rest, fuel + 1, i, k, k', found, found', hwhole, hlaid, hfit, h => by
    have hrestWhole : ∀ f ∈ rest, f.2.1.readsWhole = true :=
      fun f hf => hwhole f (List.mem_cons_of_mem _ hf)
    unfold tapePositional at h
    split at h
    case isTrue hi =>
      -- the `i`-th item is read as one whole document
      have hsplit : items.drop i = items[i] :: items.drop (i + 1) := List.drop_eq_getElem_cons hi
      rw [hsplit, itemsTape_cons] at hlaid
      obtain ⟨hitem, hrest⟩ := hlaid.append
      split at h
      case h_1 => cases h
      case h_2 d k'' hd =>
        have hk'' : k'' = k + items[i].tape.length :=
          decodeAt_end_of_readsWhole (hwhole _ List.mem_cons_self) hitem hd
        subst hk''
        have hend := tapePositional_end hrestWhole hrest
          (by simp only [List.length_cons] at hfit; omega) h
        rw [hend, hsplit, itemsTape_cons, List.length_append, Nat.add_assoc]
    case isFalse hi =>
      -- past the last item: fallbacks take no nodes
      have hdrop : ∀ j, i ≤ j → items.drop j = [] :=
        fun j hj => List.drop_eq_nil_of_le (by omega)
      split at h
      case h_1 =>
        have hend := tapePositional_end hrestWhole
          (by rw [hdrop (i + 1) (by omega)]; exact ⟨tape.toList.drop k, rfl⟩)
          (by simp only [List.length_cons] at hfit; omega) h
        rw [hend, hdrop i (Nat.le_refl i), hdrop (i + 1) (by omega)]
      case h_2 => cases h

/-- A record read from an array of no more items than it has fields, each read as one whole
document, stops after the array. -/
lemma decodeAt_record_arr_end {name : String} {fields : List (String × Schema × FieldRule)}
    {k : Nat} {items : List Json} (hwhole : ∀ f ∈ fields, f.2.1.readsWhole = true)
    (hfit : items.length ≤ fields.length) (hlaid : NodesAt tape k (Json.arr items).tape) :
    EndsAfter tape (.record name fields) k (Json.arr items).tape.length := by
  intro fuel d k' h
  rw [tape_arr] at hlaid
  obtain ⟨hk, hitems⟩ := hlaid.cons
  cases fuel with
  | zero => simp [decodeAt] at h
  | succ fuel =>
    unfold decodeAt at h
    simp only [hk] at h
    split at h
    case h_1 => cases h
    case h_2 found k'' hread =>
      have hend := tapePositional_end hwhole (by simpa using hitems) (by omega) hread
      split at h
      case h_1 =>
        simp only [Except.ok.injEq, Prod.mk.injEq] at h
        rw [← h.2, hend, tape_arr, List.length_cons, List.drop_zero]
        omega
      case h_2 => cases h

/-- A record read from a scalar node is refused. -/
lemma decodeAt_record_scalar {name : String} {fields : List (String × Schema × FieldRule)}
    {fuel k : Nat} {j : Json} (hk : tape[k]? = some (.scalar j)) :
    ∀ d k', decodeAt tape fuel (.record name fields) k ≠ .ok (d, k') := by
  intro d k' h
  cases fuel with
  | zero => simp [decodeAt] at h
  | succ fuel => simp [decodeAt, hk] at h

/-! ### Records put together -/

/-- The value a field takes that has one when absent: the member found for it, else its
fallback, `null` for an optional field. -/
def keptValue (found : List (String × Json)) (f : String × Schema × FieldRule) : Json :=
  ((found.find? (·.1 == f.1)).map (·.2)).getD
    (match f.2.2 with
      | .fallback d => d
      | _ => .null)

/-- A record whose fields are never left out, and required only when optional, puts together
one member per field, in the order of the fields. -/
lemma assemble_kept {fields : List (String × Schema × FieldRule)}
    (hkept : ∀ f ∈ fields, (∃ d, f.2.2 = .fallback d) ∨ (f.2.2 = .required ∧ f.2.1.isOptional = true))
    (found : List (String × Json)) :
    assemble fields found = .ok (fields.map fun f => (f.1, keptValue found f)) := by
  have hmap : fields.map (fun f => (f.1, keptValue found f)) =
      [] ++ fields.flatMap fun f => [(f.1, keptValue found f)] := by
    rw [List.nil_append, List.map_eq_flatMap]
  unfold assemble
  rw [hmap]
  refine foldlM_ok_append (fun acc f hf => ?_) []
  obtain ⟨key, s, rule⟩ := f
  cases hfound : found.find? (·.1 == key) with
  | some m =>
    obtain ⟨key', v⟩ := m
    -- a field found keeps its member, `null` included, as it is never left out
    have hnotOmitted : rule ≠ .omitted := by
      rcases hkept _ hf with ⟨d, hd⟩ | ⟨hreq, -⟩
      · simp only at hd
        rw [hd]
        simp
      · simp only at hreq
        rw [hreq]
        simp
    simp only [keptValue, hfound, Option.map_some, Option.getD_some]
    cases rule
    case omitted => exact absurd rfl hnotOmitted
    all_goals rfl
  | none =>
    simp only [keptValue, hfound, Option.map_none, Option.getD_none, missingValue]
    rcases hkept _ hf with ⟨d, hd⟩ | ⟨hreq, hopt⟩
    · simp only at hd
      subst hd
      rfl
    · simp only at hreq hopt
      subst hreq
      simp only [hopt, if_true]

/-- In a list whose keys are distinct, a key finds its own entry. -/
lemma find?_key_of_nodup {β : Type} :
    ∀ {l : List (String × β)}, (l.map (·.1)).Nodup → ∀ {f : String × β}, f ∈ l →
      l.find? (·.1 == f.1) = some f
  | [], _, _, hf => by cases hf
  | g :: rest, hnodup, f, hf => by
    rw [List.map_cons, List.nodup_cons] at hnodup
    by_cases hg : g.1 = f.1
    case pos =>
      have hgf : g = f := by
        rcases List.mem_cons.mp hf with rfl | hrest
        · rfl
        · exact absurd (hg ▸ List.mem_map_of_mem hrest) hnodup.1
      subst hgf
      simp
    case neg =>
      have hrest : f ∈ rest := by
        rcases List.mem_cons.mp hf with rfl | hrest
        · exact absurd rfl hg
        · exact hrest
      rw [List.find?_cons_of_neg (by simpa using hg)]
      exact find?_key_of_nodup hnodup.2 hrest

/-- In the members put together one per field, a field's key names its value. -/
lemma get?_map_of_nodup {fields : List (String × Schema × FieldRule)}
    {val : String × Schema × FieldRule → Json} (hnodup : (fields.map (·.1)).Nodup)
    {f : String × Schema × FieldRule} (hf : f ∈ fields) :
    (Json.obj (fields.map fun f => (f.1, val f))).get? f.1 = some (val f) := by
  have hrev : (fields.reverse.map (·.1)).Nodup := by
    rw [List.map_reverse]
    exact List.pairwise_reverse.mpr (hnodup.imp Ne.symm)
  have hfind := find?_key_of_nodup hrev (List.mem_reverse.mpr hf)
  simp only [Json.get?, ← List.map_reverse, List.find?_map, Function.comp_def]
  rw [hfind]
  rfl

end Schema

end HeaderBidding
