import Mathlib
import ProviderHub.Config.Files
import ProviderHub.Proofs.Toml.Reading

/-!
The numbers of a settings file.

A section is a table, or an array of its numbers in their order.

* `Config.Field`: a number that can be set;
* `Config.Field.given`: what a document gives for it;
* `Config.value_of_settingsOf`: the number that is read is the one that is given, or the default;
* `Config.Field.given_overlay`: what is given after one document was laid over another;
* `Config.load_overlays`: where the settings in force come from.
-/

namespace ProviderHub

/-! ### Tables as JSON -/

namespace Toml

variable {key : String} {index : ℕ} {entries : List (String × Toml)} {v : Toml}

lemma get?_single (entries : List (String × Toml)) (key : String) :
    (table entries).get? [key] = entries.lookup key := by
  rw [get?]
  cases entries.lookup key <;> rfl

lemma entriesToJson_eq_map (entries : List (String × Toml)) :
    entriesToJson entries = entries.map fun e => (e.1, e.2.toJson) := by
  induction entries with
  | nil => rfl
  | cons e entries ih => rw [entriesToJson, ih, List.map_cons]

lemma itemsToJson_eq_map (items : List Toml) : itemsToJson items = items.map toJson := by
  induction items with
  | nil => rfl
  | cons v items ih => rw [itemsToJson, ih, List.map_cons]

/-- A table without a key twice has the same entries as JSON. -/
lemma lookup_toJson (h : (entries.map Prod.fst).Nodup) (key : String) :
    (Json.sortFields (entriesToJson entries)).lookup key = (entries.lookup key).map toJson := by
  have hkeys : ((entries.map fun e => (e.1, e.2.toJson)).reverse.map Prod.fst).Nodup := by
    rwa [List.map_reverse, List.nodup_reverse, List.map_map]
  rw [Json.lookup_sortFields, entriesToJson_eq_map]
  refine Option.ext fun w => ?_
  rw [lookup_eq_some_iff_mem hkeys, List.mem_reverse, List.mem_map, Option.map_eq_some_iff]
  constructor
  · rintro ⟨⟨k, v⟩, hmem, heq⟩
    cases heq
    exact ⟨v, (lookup_eq_some_iff_mem h).mpr hmem, rfl⟩
  · rintro ⟨v, hv, rfl⟩
    exact ⟨(key, v), mem_of_lookup hv, rfl⟩

/-- What a section gives under a key, or at a place if it is an array. -/
def entryOf (index : ℕ) (key : String) : Toml → Option Toml
  | .table entries => entries.lookup key
  | .arr items => items[index]?
  | _ => none

/-- A section is read as a record that has what the section gives. -/
lemma slot_ofJson? {arity : ℕ} {r : Record} (hv : v.UniqueKeys)
    (h : Record.ofJson? arity v.toJson = some r) (index : ℕ) (key : String) :
    (∃ w, v.entryOf index key = some w ∧ r.slot index key = .present w.toJson) ∨
      v.entryOf index key = none ∧ ∀ w, r.slot index key ≠ .present w := by
  cases v with
  | str | int | float | bool | date => cases h
  | table entries =>
    obtain rfl : Record.keyed (Json.sortFields (entriesToJson entries)) = r := Option.some.inj h
    rw [entryOf, Record.slot, lookup_toJson hv.nodup]
    cases entries.lookup key with
    | none => exact .inr ⟨rfl, by simp⟩
    | some w => exact .inl ⟨w, rfl, rfl⟩
  | arr items =>
    rw [toJson, itemsToJson_eq_map, Record.ofJson?] at h
    split at h
    · obtain rfl := Option.some.inj h
      rw [entryOf, Record.slot, List.getElem?_map]
      cases items[index]? with
      | none => exact .inr ⟨rfl, by simp⟩
      | some w => exact .inl ⟨w, rfl, rfl⟩
    · cases h

/-- Only an integer is read as a number. -/
lemma eq_int_of_nat64? {n : ℕ} (h : nat64? v.toJson = some n) : v = .int n := by
  cases v with
  | int i =>
    rw [toJson, nat64?, natBelow?] at h
    split at h
    · rename_i hrange
      rw [← Option.some.inj h, Int.toNat_of_nonneg hrange.1]
    · cases h
  | str | float | bool | date | arr | table => cases h

end Toml

/-! ### Fields -/

namespace Config

open Toml

/-- **A number that can be set**: its section, and its place and its key there. -/
structure Field where
  group : String
  index : ℕ
  key : String
  default : ℕ
deriving DecidableEq

/-- All numbers that can be set. -/
def fields : List Field :=
  ({} : Settings).sections.flatMap fun (group, entries) =>
    entries.zipIdx.map fun ((key, default), index) => { group, index, key, default }

namespace Field

variable {f : Field} {t user project v : Toml} {s : Settings}

/-- The number in settings. -/
def value (f : Field) (s : Settings) : ℕ :=
  ((s.sections.lookup f.group).bind (·.lookup f.key)).getD 0

/-- **What a document gives for a number**: the entry of its section. -/
def given (f : Field) (t : Toml) : Option Toml := (t.get? [f.group]).bind (entryOf f.index f.key)

/-- **A section takes the place of the other document's section**: both write it, and one of them
does not write it as a table. -/
def Replaced (f : Field) (user project : Toml) : Prop :=
  ∃ a b, user.get? [f.group] = some a ∧ project.get? [f.group] = some b ∧
    (a.isTable = false ∨ b.isTable = false)

end Field

/-! ### Reading -/

/-- A number is the one that is given, or else the default. -/
def Follows (given : Option Toml) (default n : ℕ) : Prop :=
  match given with
  | some v => v = .int n
  | none => n = default

section reading

variable {entries : List (String × Toml)} {v : Toml} {s : Settings} {r : Record}
  {n arity index default : ℕ} {key : String}

lemma number_follows (hv : v.UniqueKeys) (h : Record.ofJson? arity v.toJson = some r)
    (hn : Settings.number r index key default = some n) :
    Follows (v.entryOf index key) default n := by
  rw [Settings.number] at hn
  rcases slot_ofJson? hv h index key with ⟨w, hw, hslot⟩ | ⟨hnone, hslot⟩
  · rw [hslot] at hn
    rw [hw]
    exact eq_int_of_nat64? hn
  · rw [hnone]
    split at hn
    · rename_i w heq
      exact absurd heq (hslot w)
    · exact (Option.some.inj hn).symm

/-- A number of a section is the one that the document gives, also where the section is missing. -/
lemma section_follows {α : Type} {read : Record → Option α} {x y : α} {group : String} {place : ℕ}
    (hunique : UniqueKeys (.table entries))
    (hr : Record.ofJson? 4 (Toml.table entries).toJson = some r)
    (hx : Settings.sectionOf r place group arity y read = some x) (value : α → ℕ)
    (hread : ∀ {r}, read r = some x → Settings.number r index key default = some (value x))
    (hdefault : value y = default) :
    Follows (((Toml.table entries).get? [group]).bind (entryOf index key)) default (value x) := by
  rw [get?_single, ← entryOf.eq_1 place group]
  rw [Settings.sectionOf] at hx
  rcases slot_ofJson? hunique hr place group with ⟨w, hw, hslot⟩ | ⟨hnone, hslot⟩
  · rw [hslot] at hx
    obtain ⟨r', hr', hx⟩ := Option.bind_eq_some_iff.mp hx
    rw [hw]
    exact number_follows (hunique.lookup hw) hr' (hread hx)
  · rw [hnone]
    split at hx
    · rename_i w heq
      exact absurd heq (hslot w)
    · exact Option.some.inj hx ▸ hdefault

lemma readCompletion_numbers {c : CompletionLimits} (h : Settings.readCompletion r = some c) :
    Settings.number r 0 "max_items" 300 = some c.maxItems ∧
      Settings.number r 1 "graceful_threshold" 2000 = some c.gracefulThreshold := by
  obtain ⟨maxItems, hmax, h⟩ := Option.bind_eq_some_iff.mp h
  obtain ⟨threshold, hthreshold, h⟩ := Option.bind_eq_some_iff.mp h
  cases h
  exact ⟨hmax, hthreshold⟩

lemma readCache_numbers {c : CacheSettings} (h : Settings.readCache r = some c) :
    Settings.number r 0 "completion_capacity" 12 = some c.completionCapacity ∧
      Settings.number r 1 "code_action_capacity" 10 = some c.codeActionCapacity ∧
      Settings.number r 2 "code_lens_capacity" 10 = some c.codeLensCapacity ∧
      Settings.number r 3 "call_hierarchy_capacity" 2 = some c.callHierarchyCapacity ∧
      Settings.number r 4 "sweep_delay_ms" 100 = some c.sweepDelayMs := by
  obtain ⟨completion, hcompletion, h⟩ := Option.bind_eq_some_iff.mp h
  obtain ⟨action, haction, h⟩ := Option.bind_eq_some_iff.mp h
  obtain ⟨lens, hlens, h⟩ := Option.bind_eq_some_iff.mp h
  obtain ⟨hierarchy, hhierarchy, h⟩ := Option.bind_eq_some_iff.mp h
  obtain ⟨delay, hdelay, h⟩ := Option.bind_eq_some_iff.mp h
  cases h
  exact ⟨hcompletion, haction, hlens, hhierarchy, hdelay⟩

lemma ofJson?_sections {v : Json} (h : Settings.ofJson? v = some s) :
    ∃ r, Record.ofJson? 4 v = some r ∧
      Settings.sectionOf r 0 "completion" 2 ⟨300, 2000⟩ Settings.readCompletion =
        some s.completion ∧
      Settings.sectionOf r 1 "cache" 5 {} Settings.readCache = some s.cache ∧
      Settings.sectionOf r 2 "watch" 1 100 (Settings.number · 0 "debounce_ms" 100) =
        some s.watchDebounceMs ∧
      Settings.sectionOf r 3 "server" 1 120 (Settings.number · 0 "request_timeout_secs" 120) =
        some s.requestTimeoutSecs := by
  obtain ⟨r, hr, h⟩ := Option.bind_eq_some_iff.mp h
  obtain ⟨completion, hcompletion, h⟩ := Option.bind_eq_some_iff.mp h
  obtain ⟨cache, hcache, h⟩ := Option.bind_eq_some_iff.mp h
  obtain ⟨debounce, hdebounce, h⟩ := Option.bind_eq_some_iff.mp h
  obtain ⟨timeout, htimeout, h⟩ := Option.bind_eq_some_iff.mp h
  cases h
  exact ⟨r, hr, hcompletion, hcache, hdebounce, htimeout⟩

/-- All fields, one by one. -/
lemma forall_fields {P : Field → Prop} :
    (∀ f ∈ fields, P f) ↔
      P ⟨"completion", 0, "max_items", 300⟩ ∧ P ⟨"completion", 1, "graceful_threshold", 2000⟩ ∧
      P ⟨"cache", 0, "completion_capacity", 12⟩ ∧ P ⟨"cache", 1, "code_action_capacity", 10⟩ ∧
      P ⟨"cache", 2, "code_lens_capacity", 10⟩ ∧ P ⟨"cache", 3, "call_hierarchy_capacity", 2⟩ ∧
      P ⟨"cache", 4, "sweep_delay_ms", 100⟩ ∧ P ⟨"watch", 0, "debounce_ms", 100⟩ ∧
      P ⟨"server", 0, "request_timeout_secs", 120⟩ := by
  simp [fields, Settings.sections]

/-- **A number that is read is the one that is given, or the default.** -/
lemma value_of_settingsOf (hunique : UniqueKeys (.table entries))
    (h : settingsOf (.table entries) = .ok s) :
    ∀ f ∈ fields, Follows (f.given (.table entries)) f.default (f.value s) := by
  have hread : Settings.ofJson? (Toml.table entries).toJson = some s := by
    rw [settingsOf] at h
    split at h
    · rename_i hread
      rw [hread, Except.ok.inj h]
    · cases h
  obtain ⟨r, hr, hcompletion, hcache, hdebounce, htimeout⟩ := ofJson?_sections hread
  refine forall_fields.mpr ⟨?_, ?_, ?_, ?_, ?_, ?_, ?_, ?_, ?_⟩
  · exact section_follows hunique hr hcompletion (·.maxItems)
      (fun h => (readCompletion_numbers h).1) rfl
  · exact section_follows hunique hr hcompletion (·.gracefulThreshold)
      (fun h => (readCompletion_numbers h).2) rfl
  · exact section_follows hunique hr hcache (·.completionCapacity)
      (fun h => (readCache_numbers h).1) rfl
  · exact section_follows hunique hr hcache (·.codeActionCapacity)
      (fun h => (readCache_numbers h).2.1) rfl
  · exact section_follows hunique hr hcache (·.codeLensCapacity)
      (fun h => (readCache_numbers h).2.2.1) rfl
  · exact section_follows hunique hr hcache (·.callHierarchyCapacity)
      (fun h => (readCache_numbers h).2.2.2.1) rfl
  · exact section_follows hunique hr hcache (·.sweepDelayMs)
      (fun h => (readCache_numbers h).2.2.2.2) rfl
  · exact section_follows hunique hr hdebounce id id rfl
  · exact section_follows hunique hr htimeout id id rfl

end reading

/-! ### One document over another -/

namespace Field

variable {f : Field} {user project : List (String × Toml)} {v : Toml}

lemma given_table (f : Field) (entries : List (String × Toml)) :
    f.given (.table entries) = (entries.lookup f.group).bind (entryOf f.index f.key) := by
  rw [given, get?_single]

lemma overlay_table (user project : List (String × Toml)) :
    (Toml.table user).overlay (.table project) = .table (overlayEntries user project) := rfl

/-- **What a section gives after an overlay.** A table over a table gives the upper entry, laid over
the lower one, or else the lower one; anything else takes the place of the lower section. -/
lemma entryOf_overlayValue {upper : Toml} (hunique : upper.UniqueKeys) (below : Option Toml)
    (index : ℕ) (key : String) :
    (∃ base, below = some (.table base) ∧ upper.isTable = true ∧
      (overlayValue below upper).entryOf index key =
        match upper.entryOf index key with
        | some v => some (overlayValue (base.lookup key) v)
        | none => base.lookup key) ∨
    (below.any isTable = false ∨ upper.isTable = false) ∧
      (overlayValue below upper).entryOf index key = upper.entryOf index key := by
  rcases overlayValue_cases below upper with ⟨base, entries, rfl, rfl, heq⟩ | ⟨hother, heq⟩
  · refine .inl ⟨base, rfl, rfl, ?_⟩
    rw [heq, entryOf, lookup_overlayEntries hunique.nodup]
    rfl
  · exact .inr ⟨hother, by rw [heq]⟩

/-- What the project gives stays, but for a table, which may be laid over another one. -/
lemma given_overlay_of_given (user : List (String × Toml)) (hproject : UniqueKeys (.table project))
    (h : f.given (.table project) = some v) :
    ∃ w, f.given ((Toml.table user).overlay (.table project)) = some w ∧
      (w = v ∨ w.isTable = true) := by
  rw [given_table] at h
  obtain ⟨upper, hupper, hv⟩ := Option.bind_eq_some_iff.mp h
  rw [overlay_table, given_table, lookup_overlayEntries hproject.nodup, hupper]
  show ∃ w, (overlayValue (user.lookup f.group) upper).entryOf f.index f.key = some w ∧ _
  rcases entryOf_overlayValue (hproject.lookup hupper) (user.lookup f.group) f.index f.key with
    ⟨base, -, -, heq⟩ | ⟨-, heq⟩
  · rw [heq, hv]
    refine ⟨_, rfl, ?_⟩
    rcases overlayValue_cases (base.lookup f.key) v with ⟨_, _, -, -, hmerged⟩ | ⟨-, hmerged⟩
    · exact .inr (hmerged ▸ rfl)
    · exact .inl hmerged
  · exact ⟨v, heq.trans hv, .inl rfl⟩

/-- Where the project gives nothing, the user's number stays, unless its section is replaced. -/
lemma given_overlay_of_none (hproject : UniqueKeys (.table project))
    (h : f.given (.table project) = none) :
    (¬ f.Replaced (.table user) (.table project) →
      f.given ((Toml.table user).overlay (.table project)) = f.given (.table user)) ∧
    (f.Replaced (.table user) (.table project) →
      f.given ((Toml.table user).overlay (.table project)) = none) := by
  rw [given_table] at h
  rw [overlay_table, given_table, given_table, lookup_overlayEntries hproject.nodup, Replaced,
    get?_single, get?_single]
  cases hupper : project.lookup f.group with
  | none => exact ⟨fun _ => rfl, fun ⟨a, b, _, hb, _⟩ => nomatch hb⟩
  | some upper =>
    have hnone : upper.entryOf f.index f.key = none := by rwa [hupper] at h
    show (_ → (overlayValue (user.lookup f.group) upper).entryOf f.index f.key = _) ∧
      (_ → (overlayValue (user.lookup f.group) upper).entryOf f.index f.key = none)
    rcases entryOf_overlayValue (hproject.lookup hupper) (user.lookup f.group) f.index f.key with
      ⟨base, hbase, htable, heq⟩ | ⟨hother, heq⟩
    · -- a table goes into a table
      rw [heq, hnone, hbase]
      refine ⟨fun _ => rfl, ?_⟩
      rintro ⟨a, b, ha, hb, hleaf | hleaf⟩
      · cases ha
        cases hleaf
      · cases hb
        rw [htable] at hleaf
        cases hleaf
    · -- the project's section is all there is
      rw [heq, hnone]
      refine ⟨fun hkept => ?_, fun _ => rfl⟩
      cases hbelow : user.lookup f.group with
      | none => rfl
      | some below =>
        rw [hbelow] at hother
        exact absurd ⟨below, upper, hbelow, rfl, hother⟩ hkept

end Field

/-! ### Loading -/

/-- What is read from a file is a table without a key twice. -/
lemma uniqueKeys_of_readTable {path : String} {file : FileState} {t : Toml}
    (h : readTable path file = .ok t) : t.isTable = true ∧ t.UniqueKeys := by
  cases file with
  | absent =>
    cases h
    exact ⟨rfl, .table List.nodup_nil nofun⟩
  | binary | directory => cases h
  | text content =>
    rw [readTable] at h
    split at h
    · rename_i hparse
      cases h
      exact uniqueKeys_of_parse? hparse
    · cases h

/-- **Where the settings in force come from.** When a table is laid over another one, then at the
end of every path stands the upper table's value if that is no table; what was there before, if the
upper table has nothing there and no value that is no table stands on the way; and nothing, if one
does. The files of the user and of the project are such tables, and the settings in force are those
of the project's table laid over the user's, with the environment laid over them. There each number
is the one that the project gives; or else the one that the user gives, unless both write the
section and one of them does not write it as a table; or else the default. -/
theorem load_overlays (paths : Paths) (read : String → FileState)
    (env : String → Option String) :
    (∀ lower upper : Toml, upper.UniqueKeys → ∀ path,
      (∀ v, upper.get? path = some v → v.isTable = false →
        (lower.overlay upper).get? path = some v) ∧
      (upper.get? path = none → ¬ upper.Blocks path →
        (lower.overlay upper).get? path = lower.get? path) ∧
      (upper.Blocks path → (lower.overlay upper).get? path = none)) ∧
    ∀ user project, readTable paths.user (read paths.user) = .ok user →
      readTable paths.project (read paths.project) = .ok project →
      (user.isTable = true ∧ user.UniqueKeys) ∧ (project.isTable = true ∧ project.UniqueKeys) ∧
      load paths false read env = settingsOf (user.overlay project) >>= overrideBy env ∧
      ∀ s, settingsOf (user.overlay project) = .ok s → ∀ f ∈ fields,
        (∀ v, f.given project = some v → v = .int (f.value s)) ∧
        (f.given project = none → ¬ f.Replaced user project →
          ∀ v, f.given user = some v → v = .int (f.value s)) ∧
        (f.given project = none → f.given user = none ∨ f.Replaced user project →
          f.value s = f.default) := by
  refine ⟨fun lower upper hunique path => ⟨fun v hv hleaf => ?_, ?_, ?_⟩,
    fun user project huser hproject => ?_⟩
  · exact get?_overlay_of_leaf hunique hv hleaf
  · exact get?_overlay_of_none hunique
  · exact get?_overlay_of_blocks hunique
  · obtain ⟨hutable, hukeys⟩ := uniqueKeys_of_readTable huser
    obtain ⟨hptable, hpkeys⟩ := uniqueKeys_of_readTable hproject
    refine ⟨⟨hutable, hukeys⟩, ⟨hptable, hpkeys⟩, ?_, fun s hs f hf => ?_⟩
    · rw [load, huser, hproject]
      rfl
    · obtain ⟨below, rfl⟩ := isTable_iff.mp hutable
      obtain ⟨above, rfl⟩ := isTable_iff.mp hptable
      have hfollows := value_of_settingsOf (hukeys.overlay hpkeys) hs f hf
      rw [← Field.overlay_table] at hfollows
      refine ⟨fun v hv => ?_, fun hnone hkept v hv => ?_, fun hnone hdefault => ?_⟩
      · obtain ⟨w, hw, hsame⟩ := Field.given_overlay_of_given below hpkeys hv
        rw [hw] at hfollows
        rcases hsame with rfl | htable
        · exact hfollows
        · -- a table is no number
          rw [show w = .int (f.value s) from hfollows] at htable
          cases htable
      · rw [(Field.given_overlay_of_none hpkeys hnone).1 hkept, hv] at hfollows
        exact hfollows
      · have hmerged : f.given ((Toml.table below).overlay (.table above)) = none := by
          by_cases hreplaced : f.Replaced (.table below) (.table above)
          · exact (Field.given_overlay_of_none hpkeys hnone).2 hreplaced
          · rw [(Field.given_overlay_of_none hpkeys hnone).1 hreplaced]
            exact hdefault.resolve_right hreplaced
        rw [hmerged] at hfollows
        exact hfollows

/-- A file in which two numbers of a section are set. -/
def userText : String := "[cache]\ncompletion_capacity = 20\ncode_lens_capacity = 3\n"

/-- A file in which one of them is set to another number. -/
def projectText : String := "other = [1]\n[cache]\ncompletion_capacity = 30\n"

/-- A file in which the section is an empty array. -/
def arrayText : String := "cache = []\n"

/-- The table of the first file. -/
def userTable : Toml :=
  .table [("cache", .table [("completion_capacity", .int 20), ("code_lens_capacity", .int 3)])]

/-- The table of the second file. -/
def projectTable : Toml :=
  .table [("other", .arr [.int 1]), ("cache", .table [("completion_capacity", .int 30)])]

lemma parse?_userText : parse? userText = some userTable := by cbv

lemma parse?_projectText : parse? projectText = some projectTable := by cbv

lemma parse?_arrayText : parse? arrayText = some (.table [("cache", .arr [])]) := by cbv

lemma readTable_text {path content : String} {t : Toml} (h : parse? content = some t) :
    readTable path (.text content) = .ok t := by
  rw [readTable, h]

/-- Two files, the first one of the user. -/
def twoFiles (user project path : String) : FileState :=
  .text (if path = "user" then user else project)

/-- The project's number counts, the user's other number stays, and a third one is the default. -/
theorem load_overlays_cache :
    let read := twoFiles userText projectText
    ∃ s, readTable "user" (read "user") = .ok userTable ∧
      readTable "project" (read "project") = .ok projectTable ∧
      settingsOf (userTable.overlay projectTable) = .ok s ∧
      (userTable.overlay projectTable).get? ["cache", "completion_capacity"] = some (.int 30) ∧
      (userTable.overlay projectTable).get? ["cache", "code_lens_capacity"] = some (.int 3) ∧
      (userTable.overlay projectTable).get? ["other", "key"] = none ∧
      s.cache.completionCapacity = 30 ∧ s.cache.codeLensCapacity = 3 ∧
      s.cache.codeActionCapacity = 10 := by
  intro read
  obtain ⟨s, hs⟩ : ∃ s, settingsOf (userTable.overlay projectTable) = .ok s :=
    ⟨{ cache := { completionCapacity := 30, codeLensCapacity := 3 } }, by decide +kernel⟩
  have huser : readTable "user" (read "user") = .ok userTable := readTable_text parse?_userText
  have hproject : readTable "project" (read "project") = .ok projectTable :=
    readTable_text parse?_projectText
  obtain ⟨hlaws, hload⟩ := load_overlays ⟨"user", "project"⟩ read fun _ => none
  obtain ⟨-, ⟨-, hunique⟩, -, hvalue⟩ := hload _ _ huser hproject
  have hlaw := hlaws userTable projectTable hunique
  have hfree : ¬ projectTable.Blocks ["cache", "code_lens_capacity"] := by
    rintro ⟨front, key, rest, v, hpath, hv, hleaf⟩
    match front with
    | [] =>
      cases hv
      cases hleaf
    | [name] =>
      obtain rfl : "cache" = name := (List.cons.inj hpath).1
      cases hv
      cases hleaf
    | _ :: _ :: _ => simp at hpath
  have hkept {index default : ℕ} {key : String} :
      ¬ Field.Replaced ⟨"cache", index, key, default⟩ userTable projectTable := by
    rintro ⟨a, b, ha, hb, hleaf | hleaf⟩
    · cases ha
      cases hleaf
    · cases hb
      cases hleaf
  obtain ⟨-, -, hcompletion, haction, hlens, -⟩ := forall_fields.mp (hvalue s hs)
  refine ⟨s, huser, hproject, hs, (hlaw _).1 _ rfl rfl, (hlaw _).2.1 rfl hfree,
    (hlaw _).2.2 ⟨["other"], "key", [], _, rfl, rfl, rfl⟩, ?_, ?_, ?_⟩
  · exact Int.ofNat.inj (Toml.int.inj (hcompletion.1 _ rfl)).symm
  · exact Int.ofNat.inj (Toml.int.inj (hlens.2.1 rfl hkept _ rfl)).symm
  · exact haction.2.2 rfl (.inl rfl)

/-- **A section that is written as an array takes the place of the whole section**: the project's
empty one gives no number, and still the user's is not in force. -/
theorem load_overlays_array :
    ¬ ∀ (read : String → FileState) (user project : Toml) (s : Settings) (n : ℕ),
      readTable "user" (read "user") = .ok user →
      readTable "project" (read "project") = .ok project →
      load ⟨"user", "project"⟩ false read (fun _ => none) = .ok s →
      project.get? ["cache", "code_lens_capacity"] = none →
      user.get? ["cache", "code_lens_capacity"] = some (.int n) →
      s.cache.codeLensCapacity = n := by
  intro h
  have hload : load ⟨"user", "project"⟩ false (twoFiles userText arrayText) (fun _ => none) =
      .ok {} := by decide +kernel
  exact absurd (h (twoFiles userText arrayText) userTable _ {} 3 (readTable_text parse?_userText)
    (readTable_text parse?_arrayText) hload rfl rfl) (by decide)

end Config

end ProviderHub
