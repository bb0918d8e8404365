import ProviderHub.Proofs.Toml.Overlay
import ProviderHub.Toml.Parser

/-!
Documents that are read.

* `Toml.ProperEntries`: entries of a table that is being read have different keys, and so do the
  tables in them;
* `Toml.uniqueKeys_value`: a value that is read has no key twice;
* `Toml.uniqueKeys_of_parse?`: a document that is read has none.
-/

namespace ProviderHub.Toml

/-! ### Tables that are being read -/

/-- A part of a document in which no table has a key twice. What stands in an array of tables does
not matter. -/
inductive Node.Proper : Node → Prop where
  | leaf {v : Toml} (hv : v.UniqueKeys) : Proper (.leaf v)
  | table {origin : Origin} {entries : List (String × Node)}
    (hnodup : (entries.map Prod.fst).Nodup) (hentries : ∀ e ∈ entries, Proper e.2) :
    Proper (.table origin entries)
  | tables (items : List (List (String × Node))) : Proper (.tables items)

/-- **Entries with different keys**, all of them proper. -/
def ProperEntries (es : Entries) : Prop := (es.map Prod.fst).Nodup ∧ ∀ e ∈ es, e.2.Proper

variable {key : String} {path : List String} {es es' : Entries} {n : Node} {v : Toml}
  {cs rest : List Char}

lemma properEntries_nil : ProperEntries [] := ⟨List.nodup_nil, nofun⟩

lemma proper_table_iff {origin : Origin} :
    Node.Proper (.table origin es) ↔ ProperEntries es :=
  ⟨fun h => by cases h with | table hnodup hentries => exact ⟨hnodup, hentries⟩,
    fun h => .table h.1 h.2⟩

lemma setNode_eq (key : String) (n : Node) (es : Entries) : setNode key n es = setKey key n es := by
  induction es with
  | nil => rfl
  | cons e es ih => rw [setNode, setKey, ih]

lemma ProperEntries.setNode (h : ProperEntries es) (hn : n.Proper) :
    ProperEntries (setNode key n es) := by
  rw [setNode_eq]
  refine ⟨nodup_setKey h.1 key n, fun e he => ?_⟩
  rcases mem_setKey he with rfl | he
  · exact hn
  · exact h.2 e he

lemma ProperEntries.lookup (h : ProperEntries es) (hn : es.lookup key = some n) : n.Proper :=
  h.2 _ (mem_of_lookup hn)

lemma ProperEntries.lookup_table {origin : Origin} {inner : Entries} (h : ProperEntries es)
    (hn : es.lookup key = some (.table origin inner)) : ProperEntries inner :=
  proper_table_iff.mp (h.lookup hn)

/-- A dotted key that is set leaves the keys unique, in the tables on the way too. -/
lemma ProperEntries.setDotted (h : ProperEntries es) (hv : v.UniqueKeys)
    (hset : setDotted v path es = some es') : ProperEntries es' := by
  induction path generalizing es es' with
  | nil => cases hset
  | cons key path ih =>
    cases path with
    | nil =>
      rw [Toml.setDotted] at hset
      split at hset
      · cases hset
        exact h.setNode (.leaf hv)
      · cases hset
    | cons next path =>
      rw [Toml.setDotted] at hset
      · split at hset
        · obtain ⟨inner, hinner, hset⟩ := Option.bind_eq_some_iff.mp hset
          cases hset
          exact h.setNode (proper_table_iff.mpr (ih properEntries_nil hinner))
        · rename_i hlookup
          obtain ⟨inner, hinner, hset⟩ := Option.bind_eq_some_iff.mp hset
          cases hset
          exact h.setNode (proper_table_iff.mpr (ih (h.lookup_table hlookup) hinner))
        · cases hset
      · nofun

/-- A change at the end of a path of headers leaves the keys unique if it does so there. -/
lemma ProperEntries.within {change : Entries → Option Entries} (h : ProperEntries es)
    (hchange : ∀ {before after}, ProperEntries before → change before = some after →
      ProperEntries after)
    (hwithin : within change path es = some es') : ProperEntries es' := by
  induction path generalizing es es' with
  | nil => exact hchange h hwithin
  | cons key path ih =>
    rw [Toml.within] at hwithin
    split at hwithin
    · obtain ⟨inner, hinner, hset⟩ := Option.bind_eq_some_iff.mp hwithin
      cases hset
      exact h.setNode (proper_table_iff.mpr (ih properEntries_nil hinner))
    · rename_i hlookup
      obtain ⟨inner, hinner, hset⟩ := Option.bind_eq_some_iff.mp hwithin
      cases hset
      exact h.setNode (proper_table_iff.mpr (ih (h.lookup_table hlookup) hinner))
    · split at hwithin
      · obtain ⟨inner, -, hset⟩ := Option.bind_eq_some_iff.mp hwithin
        cases hset
        exact h.setNode (.tables _)
      · cases hwithin
    · cases hwithin

lemma ProperEntries.openTable (h : ProperEntries es) (hopen : openTable key es = some es') :
    ProperEntries es' := by
  rw [Toml.openTable] at hopen
  split at hopen
  · cases hopen
    exact h.setNode (proper_table_iff.mpr properEntries_nil)
  · rename_i hlookup
    cases hopen
    exact h.setNode (proper_table_iff.mpr (h.lookup_table hlookup))
  · cases hopen

lemma ProperEntries.openArrayTable (h : ProperEntries es)
    (hopen : openArrayTable key es = some es') : ProperEntries es' := by
  rw [Toml.openArrayTable] at hopen
  split at hopen
  · cases hopen
    exact h.setNode (.tables _)
  · cases hopen
    exact h.setNode (.tables _)
  · cases hopen

/-! ### The value in the end -/

lemma entriesToToml_eq_map (es : Entries) :
    entriesToToml es = es.map fun e => (e.1, e.2.toToml) := by
  induction es with
  | nil => rfl
  | cons e es ih => rw [entriesToToml, ih, List.map_cons]

lemma Node.Proper.uniqueKeys (h : n.Proper) : n.toToml.UniqueKeys := by
  induction h with
  | leaf hv => exact hv
  | @table origin entries hnodup hentries ih =>
    rw [toToml, entriesToToml_eq_map]
    refine .table ?_ fun e he => ?_
    · rwa [List.map_map]
    · obtain ⟨f, hf, rfl⟩ := List.mem_map.mp he
      exact ih f hf
  | tables items => exact .leaf rfl

lemma ProperEntries.uniqueKeys (h : ProperEntries es) : UniqueKeys (.table (entriesToToml es)) :=
  Node.Proper.uniqueKeys (proper_table_iff.mpr h : Node.Proper (.table .header es))

/-! ### Values that are read -/

lemma isTable_of_string?
    (h : ((string? cs).map fun (s, rest) => (Toml.str s, rest)) = some (v, rest)) :
    v.isTable = false := by
  obtain ⟨⟨s, left⟩, -, heq⟩ := Option.map_eq_some_iff.mp h
  cases heq
  rfl

lemma isTable_of_scalar? (h : scalar? cs = some (v, rest)) : v.isTable = false := by
  rw [scalar?] at h
  repeat' split at h
  all_goals cases h
  all_goals rfl

/-- An array is no table. -/
lemma isTable_of_items {bound depth : ℕ} {read : List Toml}
    (h : items bound depth read cs = some (v, rest)) : v.isTable = false := by
  induction bound generalizing read cs with
  | zero => cases h
  | succ bound ih =>
    rw [items] at h
    obtain ⟨next, -, h⟩ := Option.bind_eq_some_iff.mp h
    split at h
    · cases h
      rfl
    · obtain ⟨⟨w, left⟩, -, h⟩ := Option.bind_eq_some_iff.mp h
      obtain ⟨more, -, h⟩ := Option.bind_eq_some_iff.mp h
      split at h
      · exact ih h
      · cases h
        rfl
      · cases h

/-- **A value that is read has no key twice**: an inline table is filled like any other one. -/
lemma uniqueKeys_value (bound : ℕ) :
    (∀ {depth cs v rest}, value bound depth cs = some (v, rest) → v.UniqueKeys) ∧
      ∀ {depth read cs v rest}, ProperEntries read → pairs bound depth read cs = some (v, rest) →
        v.UniqueKeys := by
  induction bound with
  | zero => exact ⟨nofun, nofun⟩
  | succ bound ih =>
    obtain ⟨ihvalue, ihpairs⟩ := ih
    constructor
    · intro depth cs v rest h
      rw [value.eq_def] at h
      dsimp only at h
      split at h
      · split at h
        · cases h
        · exact .leaf (isTable_of_items h)
      · split at h
        · cases h
        · split at h
          · cases h
            exact .table List.nodup_nil nofun
          · exact ihpairs properEntries_nil h
      · exact .leaf (isTable_of_string? h)
      · exact .leaf (isTable_of_string? h)
      · exact .leaf (isTable_of_scalar? h)
    · intro depth read cs v rest hread h
      rw [pairs] at h
      obtain ⟨⟨path, left⟩, -, h⟩ := Option.bind_eq_some_iff.mp h
      dsimp only at h
      split at h
      · obtain ⟨⟨w, left⟩, hw, h⟩ := Option.bind_eq_some_iff.mp h
        obtain ⟨filled, hfilled, h⟩ := Option.bind_eq_some_iff.mp h
        have hproper := hread.setDotted (ihvalue hw) hfilled
        split at h
        · exact ihpairs hproper h
        · cases h
          exact hproper.uniqueKeys
        · cases h
      · cases h

/-! ### Documents -/

/-- The value of a statement has no key twice. -/
def Statement.Proper : Statement → Prop
  | .pair _ v => v.UniqueKeys
  | _ => True

lemma proper_of_statement? {s : Statement} (h : statement? cs = some (s, rest)) : s.Proper := by
  rw [statement?.eq_def] at h
  split at h
  case h_1 | h_2 =>
    -- a header, of either kind
    obtain ⟨⟨path, left⟩, -, h⟩ := Option.bind_eq_some_iff.mp h
    dsimp only at h
    split at h
    · obtain ⟨left, -, h⟩ := Option.bind_eq_some_iff.mp h
      cases h
      exact trivial
    · cases h
  case h_3 =>
    obtain ⟨⟨path, left⟩, -, h⟩ := Option.bind_eq_some_iff.mp h
    dsimp only at h
    split at h
    · obtain ⟨⟨v, left⟩, hv, h⟩ := Option.bind_eq_some_iff.mp h
      obtain ⟨left, -, h⟩ := Option.bind_eq_some_iff.mp h
      cases h
      exact (uniqueKeys_value _).1 hv
    · cases h

lemma proper_of_statements {bound : ℕ} {ss : List Statement} (h : statements bound cs = some ss) :
    ∀ s ∈ ss, s.Proper := by
  induction bound generalizing cs ss with
  | zero => cases h
  | succ bound ih =>
    rw [statements] at h
    obtain ⟨next, -, h⟩ := Option.bind_eq_some_iff.mp h
    split at h
    · cases h
      nofun
    · obtain ⟨⟨s, left⟩, hs, h⟩ := Option.bind_eq_some_iff.mp h
      obtain ⟨more, hmore, h⟩ := Option.bind_eq_some_iff.mp h
      cases h
      exact List.forall_mem_cons.mpr ⟨proper_of_statement? hs, ih hmore⟩

lemma ProperEntries.enter {d d' : Draft} {s : Statement} (h : ProperEntries d.root) (hs : s.Proper)
    (henter : d.enter s = some d') : ProperEntries d'.root := by
  cases s with
  | header path =>
    rw [Draft.enter] at henter
    split at henter
    · obtain ⟨root, hroot, henter⟩ := Option.bind_eq_some_iff.mp henter
      cases henter
      exact h.within (fun hbefore hafter => hbefore.openTable hafter) hroot
    · cases henter
  | arrayHeader path =>
    rw [Draft.enter] at henter
    split at henter
    · obtain ⟨root, hroot, henter⟩ := Option.bind_eq_some_iff.mp henter
      cases henter
      exact h.within (fun hbefore hafter => hbefore.openArrayTable hafter) hroot
    · cases henter
  | pair path v =>
    rw [Draft.enter] at henter
    obtain ⟨root, hroot, henter⟩ := Option.bind_eq_some_iff.mp henter
    cases henter
    exact h.within (fun hbefore hafter => hbefore.setDotted hs hafter) hroot

lemma ProperEntries.enterAll {d d' : Draft} {ss : List Statement} (h : ProperEntries d.root)
    (hss : ∀ s ∈ ss, s.Proper) (henter : d.enterAll ss = some d') : ProperEntries d'.root := by
  induction ss generalizing d with
  | nil =>
    cases henter
    exact h
  | cons s ss ih =>
    rw [Draft.enterAll] at henter
    obtain ⟨next, hnext, henter⟩ := Option.bind_eq_some_iff.mp henter
    obtain ⟨hs, hss⟩ := List.forall_mem_cons.mp hss
    exact ih (h.enter hs hnext) hss henter

/-- **A document that is read is a table without a key twice**, and so are the tables in it. -/
lemma uniqueKeys_of_parse? {text : String} (h : parse? text = some v) :
    v.isTable = true ∧ v.UniqueKeys := by
  rw [parse?] at h
  obtain ⟨ss, hss, h⟩ := Option.bind_eq_some_iff.mp h
  obtain ⟨draft, hdraft, h⟩ := Option.bind_eq_some_iff.mp h
  cases h
  have hempty : ProperEntries ({} : Draft).root := properEntries_nil
  exact ⟨rfl, (hempty.enterAll (proper_of_statements hss) hdraft).uniqueKeys⟩

end ProviderHub.Toml
