import Mathlib.Tactic
import ProviderHub.Proofs.Session.ClosedDocuments
import ProviderHub.Proofs.Session.Tables

/-!
The open documents as a replay of the edits.

* `DocumentEdit.apply`, `Documents.replay`: what edits make of the document of one name;
* `Documents.Rejects`: a change that is not made;
* `Documents.get?_edited`: an edit changes the document of its own name only;
* `Session.documents_replayed`: after every run, each name has the document that the edits of that
  name lead to.
-/

namespace ProviderHub

/-! ### One document -/

/-- A document with a new text, unless its version is above the text's. -/
def TextDocument.changedTo (d : TextDocument) (version : Int32) (text : String) : TextDocument :=
  if version < d.version then d else { d with version, text }

namespace DocumentEdit

/-- The name of the document that an edit is about. -/
def uri : DocumentEdit → Url
  | .opens d => d.uri
  | .changes uri _ _ => uri
  | .closes uri => uri

/-- What an edit makes of the document of its name, if there is one. A change counts by its last
text. -/
def apply (current : Option TextDocument) : DocumentEdit → Option TextDocument
  | .opens d => some d
  | .changes _ version texts =>
    match texts.getLast? with
    | some text => current.map (·.changedTo version text)
    | none => current
  | .closes _ => none

/-- Whether an edit is a change to an open document. -/
def IsChange : DocumentEdit → Prop
  | .changes _ _ _ => True
  | _ => False

end DocumentEdit

/-- The document of a name after some edits, of which only those of that name count. -/
def Documents.replay (uri : Url) (edits : List DocumentEdit) : Option TextDocument :=
  (edits.filter (·.uri = uri)).foldl DocumentEdit.apply none

/-- A version of a document: a newer text of what was opened. -/
structure TextDocument.Succeeds (d d' : TextDocument) : Prop where
  uri_eq : d'.uri = d.uri
  languageId_eq : d'.languageId = d.languageId
  version_le : d.version ≤ d'.version

namespace TextDocument

lemma Succeeds.refl (d : TextDocument) : d.Succeeds d := ⟨rfl, rfl, Int32.le_refl _⟩

lemma Succeeds.trans {d d' d'' : TextDocument} (h : d.Succeeds d') (h' : d'.Succeeds d'') :
    d.Succeeds d'' :=
  ⟨h'.uri_eq.trans h.uri_eq, h'.languageId_eq.trans h.languageId_eq,
    Int32.le_trans h.version_le h'.version_le⟩

lemma succeeds_changedTo (d : TextDocument) (version : Int32) (text : String) :
    d.Succeeds (d.changedTo version text) := by
  rw [changedTo]
  split
  · exact .refl d
  · rename_i hversion
    exact ⟨rfl, rfl, Int32.not_lt.mp hversion⟩

end TextDocument

namespace DocumentEdit

/-- A change leads from a version of a document to a later one. -/
lemma succeeds_apply {edit : DocumentEdit} (hchange : edit.IsChange) (d : TextDocument) :
    ∃ d', edit.apply (some d) = some d' ∧ d.Succeeds d' := by
  cases edit with
  | opens | closes => exact hchange.elim
  | changes uri version texts =>
      rw [apply]
      cases texts.getLast? with
      | none => exact ⟨d, rfl, .refl d⟩
      | some text =>
          exact ⟨_, rfl, d.succeeds_changedTo version text⟩

lemma succeeds_foldl {edits : List DocumentEdit} (hchanges : ∀ edit ∈ edits, edit.IsChange)
    (d : TextDocument) : ∃ d', edits.foldl apply (some d) = some d' ∧ d.Succeeds d' := by
  induction edits generalizing d with
  | nil => exact ⟨d, rfl, .refl d⟩
  | cons edit edits ih =>
      obtain ⟨d', hd', hfirst⟩ := succeeds_apply (hchanges edit (List.mem_cons_self ..)) d
      obtain ⟨d'', hd'', hrest⟩ := ih (fun e he => hchanges e (List.mem_cons_of_mem _ he)) d'
      exact ⟨d'', by rw [List.foldl_cons, hd', hd''], hfirst.trans hrest⟩

end DocumentEdit

/-! ### The table -/

namespace Documents

variable {t : Documents} {uri u : Url} {d : TextDocument} {edit : DocumentEdit}

/-- Each document once, under its own name. -/
def Keyed (t : Documents) : Prop := (t.docs.map (·.uri)).Nodup

/-- A change that is not made: it has no text, or the document is not open, or its version is
newer. -/
def Rejects (t : Documents) : DocumentEdit → Prop
  | .changes uri version texts => texts = [] ∨ ∀ d, t.get? uri = some d → version < d.version
  | _ => False

lemma uri_of_get? (h : t.get? uri = some d) : d.uri = uri := by
  rw [get?] at h
  exact beq_iff_eq.mp (List.find?_some h :)

lemma get?_erase (t : Documents) (uri u : Url) :
    (t.erase uri).get? u = if u = uri then none else t.get? u := by
  rw [get?, erase, List.find?_filter]
  split
  · rename_i heq
    rw [heq, List.find?_eq_none]
    intro d _
    simp
  · rename_i hne
    refine List.find?_congr fun d _ => ?_
    by_cases hd : d.uri = u
    · simp [hd, hne]
    · simp [hd]

lemma get?_openDocument (t : Documents) (d : TextDocument) (u : Url) :
    (t.openDocument d).get? u = if u = d.uri then some d else t.get? u := by
  have happend : (t.openDocument d).get? u =
      ((t.erase d.uri).get? u).or (if d.uri = u then some d else none) := by
    rw [get?, openDocument, List.find?_append, get?, List.find?_singleton]
    simp only [beq_iff_eq]
  rw [happend, get?_erase]
  by_cases hu : u = d.uri
  · rw [if_pos hu, if_pos hu.symm, if_pos hu, Option.none_or]
  · rw [if_neg hu, if_neg (Ne.symm hu), if_neg hu, Option.or_none]

/-- **An edit changes the document of its own name only**, as it does alone. -/
lemma get?_edited (t : Documents) (edit : DocumentEdit) (u : Url) :
    (t.edited edit).get? u = if u = edit.uri then edit.apply (t.get? u) else t.get? u := by
  cases edit with
  | opens d => exact t.get?_openDocument d u
  | closes uri => exact t.get?_erase uri u
  | changes uri version texts =>
      rw [edited, DocumentEdit.uri, DocumentEdit.apply]
      cases texts.getLast? with
      | none => exact (ite_self _).symm
      | some text =>
          dsimp only
          rw [change]
          by_cases hu : u = uri
          · subst hu
            rw [if_pos rfl]
            cases hd : t.get? u with
            | none => exact hd
            | some d =>
                rw [Option.map_some, TextDocument.changedTo]
                dsimp only
                split
                · exact hd
                · rw [get?_openDocument, if_pos (uri_of_get? hd).symm]
          · rw [if_neg hu]
            cases hd : t.get? uri with
            | none => rfl
            | some d =>
                dsimp only
                split
                · rfl
                · rw [get?_openDocument, if_neg (by rwa [uri_of_get? hd])]

/-- A change that is not made leaves the table as it is. -/
lemma edited_of_rejects (h : t.Rejects edit) : t.edited edit = t := by
  cases edit with
  | opens | closes => exact h.elim
  | changes uri version texts =>
      rw [edited]
      rcases h with rfl | hversion
      · rfl
      · split
        · rw [change]
          split
          · rename_i d hd
            rw [if_pos (hversion d hd)]
          · rfl
        · rfl

lemma Keyed.erase (ht : t.Keyed) (uri : Url) : (t.erase uri).Keyed :=
  ht.sublist (List.filter_sublist.map _)

lemma Keyed.openDocument (ht : t.Keyed) (d : TextDocument) : (t.openDocument d).Keyed := by
  rw [Keyed, Documents.openDocument, List.map_append, List.map_singleton]
  refine List.Nodup.append (ht.erase d.uri) (List.nodup_singleton _) ?_
  rw [List.disjoint_singleton]
  intro hmem
  obtain ⟨other, hother, heq⟩ := List.mem_map.mp hmem
  exact bne_iff_ne.mp (List.mem_filter.mp hother).2 heq

lemma Keyed.edited (ht : t.Keyed) (edit : DocumentEdit) : (t.edited edit).Keyed := by
  cases edit with
  | opens d => exact ht.openDocument d
  | closes uri => exact ht.erase uri
  | changes uri version texts =>
      rw [Documents.edited]
      split
      · rw [change]
        split
        · split
          · exact ht
          · exact ht.openDocument _
        · exact ht
      · exact ht

/-! ### Replays -/

variable {edits later : List DocumentEdit}

lemma replay_append (uri : Url) (edits later : List DocumentEdit) :
    replay uri (edits ++ later) =
      (later.filter (·.uri = uri)).foldl DocumentEdit.apply (replay uri edits) := by
  rw [replay, List.filter_append, List.foldl_append]
  rfl

lemma replay_concat (uri : Url) (edits : List DocumentEdit) (edit : DocumentEdit) :
    replay uri (edits ++ [edit]) =
      if uri = edit.uri then edit.apply (replay uri edits) else replay uri edits := by
  rw [replay_append]
  by_cases hu : edit.uri = uri
  · rw [List.filter_singleton, if_pos hu.symm]
    simp [hu]
  · rw [List.filter_singleton, if_neg (Ne.symm hu)]
    simp [hu]

/-- Between an open and the next open or close, a document only gets newer texts. -/
lemma replay_succeeds (hd : replay uri edits = some d)
    (hchanges : ∀ edit ∈ later, edit.uri = uri → edit.IsChange) :
    ∃ d', replay uri (edits ++ later) = some d' ∧ d.Succeeds d' := by
  rw [replay_append, hd]
  refine DocumentEdit.succeeds_foldl (fun edit hedit => ?_) d
  obtain ⟨hmem, huri⟩ := List.mem_filter.mp hedit
  exact hchanges edit hmem (of_decide_eq_true huri)

end Documents

/-! ### Runs -/

namespace Session

variable {π : Type} {settings : Settings} {actions : List (SessionAction π)}

/-- What the documents are after one more edit, or without one. -/
lemma replay_filterMap_concat (uri : Url) (actions : List (SessionAction π))
    (action : SessionAction π) :
    Documents.replay uri ((actions ++ [action]).filterMap SessionAction.edit?) =
      match action.edit? with
      | some edit =>
        if uri = edit.uri then edit.apply (Documents.replay uri (actions.filterMap (·.edit?)))
        else Documents.replay uri (actions.filterMap (·.edit?))
      | none => Documents.replay uri (actions.filterMap (·.edit?)) := by
  rw [List.filterMap_append]
  cases hedit : action.edit? with
  | none => rw [List.filterMap_cons_none hedit, List.filterMap_nil, List.append_nil]
  | some edit =>
      rw [List.filterMap_cons_some hedit, List.filterMap_nil, Documents.replay_concat]

lemma get?_run (settings : Settings) (actions : List (SessionAction π)) (uri : Url) :
    (run settings actions).language.documents.get? uri =
      Documents.replay uri (actions.filterMap (·.edit?)) := by
  induction actions using List.reverseRecOn with
  | nil => rfl
  | append_singleton actions action ih =>
      rw [run_append, documents_step, replay_filterMap_concat]
      cases action.edit? with
      | none => exact ih
      | some edit =>
          dsimp only [Option.elim]
          rw [Documents.get?_edited, ih]

lemma keyed_run (settings : Settings) (actions : List (SessionAction π)) :
    (run settings actions).language.documents.Keyed := by
  induction actions using List.reverseRecOn with
  | nil => exact List.nodup_nil
  | append_singleton actions action ih =>
      rw [run_append, documents_step]
      cases action.edit? with
      | none => exact ih
      | some edit => exact ih.edited edit

/-- **Documents are a replay of the edits**: after every run the table has each document once, and
under each name the one that the edits of that name lead to, which are those of the notifications
that can be read. Until the next open or close of its name, a document only gets texts whose version
is not below the one before, under the same name and in the same language. A notification that
cannot be read, or whose change is not made, leaves the whole table as it is. -/
theorem documents_replayed (settings : Settings) (actions : List (SessionAction π)) :
    ((run settings actions).language.documents.Keyed ∧
      ∀ uri, (run settings actions).language.documents.get? uri =
        Documents.replay uri (actions.filterMap (·.edit?))) ∧
    (∀ uri d later, (run settings actions).language.documents.get? uri = some d →
      (∀ edit ∈ later.filterMap (SessionAction.edit? (π := π)), edit.uri = uri → edit.IsChange) →
      ∃ d', (run settings (actions ++ later)).language.documents.get? uri = some d' ∧
        d.Succeeds d') ∧
    ∀ action : SessionAction π,
      (∀ edit, action.edit? = some edit →
        (run settings actions).language.documents.Rejects edit) →
      (run settings (actions ++ [action])).language.documents =
        (run settings actions).language.documents := by
  refine ⟨⟨keyed_run settings actions, get?_run settings actions⟩,
    fun uri d later hd hchanges => ?_, fun action hrejects => ?_⟩
  · rw [get?_run] at hd ⊢
    rw [List.filterMap_append]
    exact Documents.replay_succeeds hd hchanges
  · rw [run_append, documents_step]
    cases hedit : action.edit? with
    | none => rfl
    | some edit => exact Documents.edited_of_rejects (hrejects edit hedit)

/-- The client changes the document to a version, by texts one after another. -/
def changesTo (version : Int) (texts : List String) : SessionAction Unit :=
  tells Method.didChange (Json.object
    [("textDocument", Json.object [("uri", .str "mem:/a"), ("version", .int version)]),
      ("contentChanges", .arr (texts.map fun text => Json.object [("text", .str text)]))])

/-- The document is opened, and changed twice at once. -/
def editRun : List (SessionAction Unit) :=
  [tells Method.didOpen
      (lateParams [("languageId", .str "text"), ("version", .int 1), ("text", .str "")]),
    changesTo 3 ["a", "ab"]]

/-- A change to an old version, one to the same version, and one without a text. -/
def laterEdits : List (SessionAction Unit) := [changesTo 2 ["c"], changesTo 3 ["d"], changesTo 4 []]

/-- The last text counts, and a change to an older version is not made. -/
theorem documents_replayed_editRun :
    let d : TextDocument := ⟨lateUrl, "text", 3, "ab"⟩
    (run {} editRun).language.documents.get? lateUrl = some d ∧
      (∃ d', (run {} (editRun ++ laterEdits)).language.documents.get? lateUrl = some d' ∧
        d.Succeeds d' ∧ d'.text = "d") ∧
      (run {} (editRun ++ [changesTo 2 ["c"]])).language.documents =
        (run {} editRun).language.documents := by
  intro d
  obtain ⟨-, hlater, hrejects⟩ := documents_replayed {} editRun
  have hopen : (run {} editRun).language.documents.get? lateUrl = some d := by decide +kernel
  have hedits : laterEdits.filterMap (·.edit?) =
      [.changes lateUrl 2 ["c"], .changes lateUrl 3 ["d"], .changes lateUrl 4 []] := by
    decide +kernel
  refine ⟨hopen, ?_, hrejects _ fun edit hedit => ?_⟩
  · obtain ⟨d', hd', hsucceeds⟩ := hlater lateUrl d laterEdits hopen fun edit hedit _ => by
      rw [hedits] at hedit
      fin_cases hedit <;> exact trivial
    have htext : ((run {} (editRun ++ laterEdits)).language.documents.get? lateUrl).map (·.text) =
        some "d" := by
      decide +kernel
    rw [hd'] at htext
    exact ⟨d', hd', hsucceeds, Option.some_inj.mp htext⟩
  · have hstale : (changesTo 2 ["c"]).edit? = some (.changes lateUrl 2 ["c"]) := by decide +kernel
    rw [hstale] at hedit
    cases hedit
    refine .inr fun other hother => ?_
    rw [hopen] at hother
    cases hother
    decide

end Session

end ProviderHub
