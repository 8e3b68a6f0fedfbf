import Mathlib.Tactic.Lemma
import Mathlib.Tactic.SplitIfs
import HeaderBidding.Config.File
import HeaderBidding.Proofs.CompactText

/-!
# Settings across updates and restarts

The client's configuration keeper (`Settings`) merges each update from the server into the
configuration it holds, keeps a kill switch that updates and the app both set, and, when it has
a store, stores the merged configuration after each update; at start it reads the stored one.

A run of the keeper is a list of calls (`Settings.Call`). Main statement:
`settings_follow_merged_updates`. Two updates in a row act as their merge, and an update repeated
changes nothing. After a run from a store, the configuration is the stored one with every update
merged in, in order, and the kill switch is the last one set. After each update the store holds
the merged configuration, and a start from that store, in memory or through its file, restores
the configuration and its kill switch.
-/

namespace HeaderBidding

namespace RemoteConfig

open Json

/-! ### Written and read back -/

/-- The keys of a configuration's entries, in the order they are written. -/
def keys : List String :=
  ["killSwitch", "AndroidDisplayUrlMacro", "AndroidAdTagUrlMode", "AndroidAdTagDataMacro",
    "AndroidAdTagDataMode", "csmEnabled"]

/-- The value a configuration writes under a key, if any. -/
def entry (c : RemoteConfig) (k : String) : Option Json :=
  if k = "killSwitch" then c.killSwitch.map .bool
  else if k = "AndroidDisplayUrlMacro" then c.displayUrlMacro.map .str
  else if k = "AndroidAdTagUrlMode" then c.adTagUrlMode.map .str
  else if k = "AndroidAdTagDataMacro" then c.adTagDataMacro.map .str
  else if k = "AndroidAdTagDataMode" then c.adTagDataMode.map .str
  else if k = "csmEnabled" then c.csmEnabled.map .bool
  else none

/-- The document of a configuration holds its entries, in order. -/
lemma toJson_eq (c : RemoteConfig) : c.toJson = .obj (entries keys c.entry) := by
  simp only [toJson, keys, entries_cons, entry, String.reduceEq, ↓reduceIte, List.append_assoc,
    Option.map_map]
  -- the six entries one by one, each present or absent
  refine congrArg obj ?_
  congr 1
  · cases c.killSwitch <;> rfl
  congr 1
  · cases c.displayUrlMacro <;> rfl
  congr 1
  · cases c.adTagUrlMode <;> rfl
  congr 1
  · cases c.adTagDataMacro <;> rfl
  congr 1
  · cases c.adTagDataMode <;> rfl
  · cases c.csmEnabled <;> rfl

/-- The fields of the wire schema. -/
def fields : List (String × Schema × FieldRule) :=
  [("killSwitch", .optional .boolean, .omitted),
    ("AndroidDisplayUrlMacro", .optional .string, .omitted),
    ("AndroidAdTagUrlMode", .optional .string, .omitted),
    ("AndroidAdTagDataMacro", .optional .string, .omitted),
    ("AndroidAdTagDataMode", .optional .string, .omitted),
    ("csmEnabled", .optional .boolean, .omitted)]

lemma schema_eq : schema = .record "RemoteConfigResponse" fields := rfl

lemma keys_eq : fields.map (·.1) = keys := rfl

lemma keys_nodup : keys.Nodup := by decide

lemma entry_ne_null (c : RemoteConfig) (k : String) : c.entry k ≠ some .null := by
  unfold entry
  split_ifs <;> simp

/-- Every entry a configuration writes is read back by its field. -/
lemma readsBack_entry (c : RemoteConfig) (src : ByteArray) (depth : Nat) {m : String × Json}
    (hm : m ∈ entries keys c.entry) : Schema.ReadsBack src fields depth m := by
  obtain ⟨k, v⟩ := m
  obtain ⟨hk, hv⟩ := mem_entries.mp hm
  simp only [keys, List.mem_cons, List.not_mem_nil, or_false] at hk
  rcases hk with rfl | rfl | rfl | rfl | rfl | rfl <;>
    simp only [entry, String.reduceEq, ↓reduceIte, Option.map_eq_some_iff] at hv <;>
    obtain ⟨x, -, rfl⟩ := hv
  -- the kill switch and `csmEnabled` are flags, the four others texts
  · exact Schema.readsBack_optional rfl rfl (.boolean x) src
  · exact Schema.readsBack_optional rfl rfl (.string x) src
  · exact Schema.readsBack_optional rfl rfl (.string x) src
  · exact Schema.readsBack_optional rfl rfl (.string x) src
  · exact Schema.readsBack_optional rfl rfl (.string x) src
  · exact Schema.readsBack_optional rfl rfl (.boolean x) src

lemma bind_getBool?_map_bool (o : Option Bool) : (o.map Json.bool).bind getBool? = o := by
  cases o <;> rfl

lemma bind_getStr?_map_str (o : Option String) : (o.map Json.str).bind getStr? = o := by
  cases o <;> rfl

/-- A configuration is read back from the document it writes. -/
lemma ofJson_toJson (c : RemoteConfig) : ofJson c.toJson = c := by
  have hfield : ∀ k ∈ keys, (Json.obj (entries keys c.entry)).field? k = c.entry k :=
    fun k hk => field?_entries keys_nodup hk (entry_ne_null c k)
  rw [toJson_eq]
  simp only [ofJson, hfield _ (by simp [keys] : "killSwitch" ∈ keys),
    hfield _ (by simp [keys] : "AndroidDisplayUrlMacro" ∈ keys),
    hfield _ (by simp [keys] : "AndroidAdTagUrlMode" ∈ keys),
    hfield _ (by simp [keys] : "AndroidAdTagDataMacro" ∈ keys),
    hfield _ (by simp [keys] : "AndroidAdTagDataMode" ∈ keys),
    hfield _ (by simp [keys] : "csmEnabled" ∈ keys)]
  unfold entry
  simp only [String.reduceEq, ↓reduceIte, bind_getBool?_map_bool, bind_getStr?_map_str]

/-- The stored text of a configuration reads back as its document. -/
lemma readText_fileText (c : RemoteConfig) : Schema.readText schema c.fileText = .ok c.toJson := by
  have homitted : ∀ f ∈ fields, f.2.2 = .omitted := by
    intro f hf
    simp only [fields, List.mem_cons, List.not_mem_nil, or_false] at hf
    rcases hf with rfl | rfl | rfl | rfl | rfl | rfl <;> rfl
  have hasm : Schema.assemble fields (entries keys c.entry) = .ok (entries keys c.entry) :=
    keys_eq ▸ Schema.assemble_entries homitted (fun k v hv hnull => entry_ne_null c k (hnull ▸ hv))
      (by rw [keys_eq]; exact keys_nodup)
  have hnodup : ((entries keys c.entry).map (·.1)).Nodup :=
    (keys_entries_sublist keys c.entry).nodup keys_nodup
  rw [fileText, schema_eq, toJson_eq]
  exact Schema.readText_compact_obj hnodup (fun src m hm => readsBack_entry c src _ hm) hasm

/-- A configuration stored in a file is read back from it. -/
lemma ofFile?_fileText (c : RemoteConfig) : ofFile? (some c.fileText) = some c := by
  simp only [ofFile?, Option.bind_some, readText_fileText, ofJson_toJson]

/-! ### Merging -/

lemma empty_merge (c : RemoteConfig) : empty.merge c = c := by
  simp only [empty, merge, Option.orElse_eq_or, Option.or_none]

lemma merge_assoc (a b c : RemoteConfig) : (a.merge b).merge c = a.merge (b.merge c) := by
  simp only [merge, Option.orElse_eq_or, Option.or_assoc]

lemma merge_self (a : RemoteConfig) : a.merge a = a := by
  simp only [merge, Option.orElse_eq_or, Option.or_self]

end RemoteConfig

namespace Settings

/-- A call on the settings: an update from the server, or the kill switch set by hand. -/
inductive Call where
  | refresh (update : RemoteConfig)
  | setKillSwitch (enabled : Bool)

/-- The update a call brings, if any. -/
def Call.update? : Call → Option RemoteConfig
  | .refresh u => some u
  | .setKillSwitch _ => none

/-- The kill switch a call sets, if any. -/
def Call.killSwitch? : Call → Option Bool
  | .refresh u => u.killSwitch
  | .setKillSwitch b => some b

/-- Carries a call out. -/
def perform (s : Settings) : Call → Settings
  | .refresh u => s.refresh u
  | .setKillSwitch b => s.setKillSwitch b

/-- Carries calls out in order. -/
def run (s : Settings) (calls : List Call) : Settings :=
  calls.foldl perform s

/-- Settings that agree on all but the count of writes. -/
def Same (s t : Settings) : Prop :=
  s.killSwitch = t.killSwitch ∧ s.remote = t.remote ∧ s.store = t.store

/-! ### One call -/

@[simp] lemma killSwitch_refresh (s : Settings) (u : RemoteConfig) :
    (s.refresh u).killSwitch = u.killSwitch.getD s.killSwitch := by
  obtain ⟨k, r, store, w⟩ := s
  cases store <;> rfl

@[simp] lemma remote_refresh (s : Settings) (u : RemoteConfig) :
    (s.refresh u).remote = s.remote.merge u := by
  obtain ⟨k, r, store, w⟩ := s
  cases store <;> rfl

lemma store_refresh (s : Settings) (u : RemoteConfig) :
    (s.refresh u).store = s.store.map fun _ => some (s.remote.merge u) := by
  obtain ⟨k, r, store, w⟩ := s
  cases store <;> rfl

/-- Two updates in a row have the effect of their merge. -/
lemma refresh_refresh (s : Settings) (a b : RemoteConfig) :
    Same ((s.refresh a).refresh b) (s.refresh (a.merge b)) := by
  refine ⟨?_, ?_, ?_⟩
  · simp only [killSwitch_refresh, RemoteConfig.merge, Option.orElse_eq_or]
    cases b.killSwitch <;> rfl
  · simp only [remote_refresh, RemoteConfig.merge_assoc]
  · simp only [store_refresh, remote_refresh, RemoteConfig.merge_assoc, Option.map_map]
    rfl

lemma killSwitch_perform (s : Settings) (call : Call) :
    (s.perform call).killSwitch = call.killSwitch?.getD s.killSwitch := by
  cases call <;> simp [perform, Call.killSwitch?, setKillSwitch]

lemma remote_perform (s : Settings) (call : Call) :
    (s.perform call).remote = (call.update?.map s.remote.merge).getD s.remote := by
  cases call <;> simp [perform, Call.update?, setKillSwitch]

/-! ### Runs -/

/-- The kill switch after a run: the last one set, or the one before the run. -/
lemma killSwitch_run (s : Settings) (calls : List Call) :
    (s.run calls).killSwitch =
      ((calls.map Call.killSwitch?).filterMap id).getLast?.getD s.killSwitch := by
  induction calls generalizing s with
  | nil => rfl
  | cons call calls ih =>
    rw [run, List.foldl_cons, ← run, ih, killSwitch_perform, List.map_cons]
    cases call.killSwitch? with
    | none => rfl
    | some b => simp [List.getLast?_cons]

/-- The merged configuration after a run: every update merged in, in order. -/
lemma remote_run (s : Settings) (calls : List Call) :
    (s.run calls).remote = (calls.filterMap Call.update?).foldl RemoteConfig.merge s.remote := by
  induction calls generalizing s with
  | nil => rfl
  | cons call calls ih =>
    rw [run, List.foldl_cons, ← run, ih, remote_perform]
    cases hu : call.update? with
    | none => rw [List.filterMap_cons_none hu]; rfl
    | some u => rw [List.filterMap_cons_some hu]; rfl

/-- Settings with a store keep one along any run. -/
lemma isSome_store_run {s : Settings} (h : s.store.isSome) (calls : List Call) :
    (s.run calls).store.isSome := by
  induction calls generalizing s with
  | nil => exact h
  | cons call calls ih =>
    apply ih
    cases call with
    | refresh u => simpa [perform, store_refresh] using h
    | setKillSwitch b => exact h

/-- After an update, settings with a store hold the merged configuration there. -/
lemma store_refresh_of_isSome {s : Settings} (h : s.store.isSome) (u : RemoteConfig) :
    (s.refresh u).store = some (some (s.refresh u).remote) := by
  obtain ⟨held, hheld⟩ := Option.isSome_iff_exists.mp h
  rw [store_refresh, hheld, remote_refresh]
  rfl

/-! ### Settings read from a store -/

@[simp] lemma remote_persisted (held : Option RemoteConfig) :
    (persisted held).remote = held.getD .empty := by
  cases held with
  | none => rfl
  | some c => exact RemoteConfig.empty_merge c

@[simp] lemma killSwitch_persisted (held : Option RemoteConfig) :
    (persisted held).killSwitch = (held.bind (·.killSwitch)).getD false := by
  cases held <;> rfl

@[simp] lemma store_persisted (held : Option RemoteConfig) : (persisted held).store = some held := by
  cases held <;> rfl

/-- The last of the values set, after a first that may be missing. -/
lemma getLast?_filterMap_cons (o : Option Bool) (l : List (Option Bool)) (d : Bool) :
    ((o :: l).filterMap id).getLast?.getD d = (l.filterMap id).getLast?.getD (o.getD d) := by
  cases o with
  | none => rfl
  | some b => simp [List.getLast?_cons]

end Settings

/-- The configuration after any run is the stored one with every update merged in, in order, the
kill switch the last one set; the store keeps the merge, and a start from it restores it. -/
theorem settings_follow_merged_updates :
    (∀ (s : Settings) (a b : RemoteConfig),
      Settings.Same ((s.refresh a).refresh b) (s.refresh (a.merge b)) ∧
      Settings.Same ((s.refresh a).refresh a) (s.refresh a)) ∧
    ∀ (held : Option RemoteConfig) (calls : List Settings.Call),
      let s := (Settings.persisted held).run calls
      s.remote = (calls.filterMap Settings.Call.update?).foldl RemoteConfig.merge (held.getD .empty) ∧
      s.killSwitch =
        ((held.bind (·.killSwitch) :: calls.map Settings.Call.killSwitch?).filterMap id).getLast?.getD
          false ∧
      ∀ u : RemoteConfig,
        let t := s.refresh u
        let stored := t.store.getD none
        t.store = some (some t.remote) ∧
        (Settings.persisted stored).remote = t.remote ∧
        (Settings.persisted stored).killSwitch = t.remote.killSwitch.getD false ∧
        (Settings.persisted (RemoteConfig.ofFile? (stored.map RemoteConfig.fileText))).remote =
          t.remote ∧
        (Settings.persisted (RemoteConfig.ofFile? (stored.map RemoteConfig.fileText))).killSwitch =
          t.remote.killSwitch.getD false := by
  refine ⟨fun s a b => ⟨Settings.refresh_refresh s a b, ?_⟩, fun held calls => ?_⟩
  · -- an update merged with itself is itself
    have hsame := Settings.refresh_refresh s a a
    rwa [RemoteConfig.merge_self] at hsame
  intro s
  have hstore : s.store.isSome := Settings.isSome_store_run (by simp) calls
  refine ⟨?_, ?_, fun u => ?_⟩
  · rw [Settings.remote_run, Settings.remote_persisted]
  · rw [Settings.killSwitch_run, Settings.getLast?_filterMap_cons, Settings.killSwitch_persisted]
  · intro t stored
    have ht : t.store = some (some t.remote) := Settings.store_refresh_of_isSome hstore u
    have hstored : stored = some t.remote := by simp only [stored, ht, Option.getD_some]
    simp only [hstored, Option.map_some, RemoteConfig.ofFile?_fileText, Settings.remote_persisted,
      Settings.killSwitch_persisted, Option.getD_some, Option.bind_some, ht, and_self]

end HeaderBidding
