import ProviderHub.Proofs.Lsp.Reading
import ProviderHub.Proofs.Session.Runs

/-!
The characters that are announced to the client.

Providers of completion and of signature help declare characters, and are asked when one of theirs
is typed. The client asks only when a character is typed that the server has announced.

* `pairwise_sortedUnique`, `mem_sortedUnique`: texts are brought in order, each once;
* `Session.Tells`: what the client is told about a feature, at the start or later;
* `Json.Announces`: the options of a feature announce a character;
* `Session.announces_iff`: the characters of completion are announced, and those that start
  signature help; a character that only goes on with it is not.
-/

namespace ProviderHub

/-! ### Texts in order -/

lemma mem_sortedUnique {texts : List String} {text : String} :
    text ∈ sortedUnique texts ↔ text ∈ texts := by
  rw [sortedUnique, List.mem_eraseDups, List.mem_mergeSort]

/-- Texts in order are in strict order when each is kept once. -/
lemma pairwise_eraseDups :
    ∀ {texts : List String}, texts.Pairwise (· ≤ ·) → texts.eraseDups.Pairwise (· < ·)
  | [], _ => .nil
  | first :: rest, h => by
    obtain ⟨hfirst, hrest⟩ := List.pairwise_cons.mp h
    rw [List.eraseDups_cons, List.pairwise_cons]
    refine ⟨fun text htext => ?_, pairwise_eraseDups (hrest.filter _)⟩
    rw [List.mem_eraseDups, List.mem_filter] at htext
    obtain ⟨hmem, hne⟩ := htext
    exact String.not_le.mp fun hle =>
      bne_iff_ne.mp hne (String.le_antisymm hle (hfirst text hmem))
termination_by texts => texts.length
decreasing_by exact Nat.lt_succ_of_le (List.length_filter_le ..)

lemma pairwise_sortedUnique (texts : List String) : (sortedUnique texts).Pairwise (· < ·) := by
  have htrans (a b c : String) (hab : decide (a ≤ b) = true) (hbc : decide (b ≤ c) = true) :
      decide (a ≤ c) = true :=
    decide_eq_true (String.le_trans (of_decide_eq_true hab) (of_decide_eq_true hbc))
  have htotal (a b : String) : (decide (a ≤ b) || decide (b ≤ a)) = true := by
    simpa using String.le_total a b
  exact pairwise_eraseDups ((List.pairwise_mergeSort htrans htotal texts).imp of_decide_eq_true)

/-! ### What providers declare -/

lemma CompletionMetadata.accepts_character (m : CompletionMetadata) (ch : String) :
    m.accepts ⟨.character, some ch⟩ = true ↔ ch ∈ m.triggers := by
  rw [accepts, List.contains_iff_mem]

lemma SignatureMetadata.accepts_character (m : SignatureMetadata) (ch : String) (again : Bool) :
    m.accepts ⟨.character, some ch, again⟩ = true ↔
      ch ∈ m.triggers ∨ again = true ∧ ch ∈ m.retriggers := by
  simp [accepts]

namespace Providers

variable {π : Type} {p : Providers π} {ch : String}

/-- **A provider of a feature declares this.** -/
def Declares (p : Providers π) (feature : Feature) (metadata : Metadata) : Prop :=
  ∃ e ∈ (p.registry feature).entries, e.metadata = metadata

lemma mem_completionTriggersOf {metadata : Metadata} :
    ch ∈ completionTriggersOf metadata ↔ ∃ m, metadata = .completion m ∧ ch ∈ m.triggers := by
  cases metadata <;> simp [completionTriggersOf]

lemma mem_signatureTriggersOf {metadata : Metadata} :
    ch ∈ signatureTriggersOf metadata ↔ ∃ m, metadata = .signature m ∧ ch ∈ m.triggers := by
  cases metadata <;> simp [signatureTriggersOf]

lemma mem_completionTriggers :
    ch ∈ p.completionTriggers ↔ ∃ m, p.Declares .completion (.completion m) ∧ ch ∈ m.triggers := by
  rw [completionTriggers, mem_sortedUnique, List.mem_flatMap]
  simp only [mem_completionTriggersOf, Declares]
  tauto

lemma mem_signatureTriggers :
    ch ∈ p.signatureTriggers ↔ ∃ m, p.Declares .signatureHelp (.signature m) ∧ ch ∈ m.triggers := by
  rw [signatureTriggers, mem_sortedUnique, List.mem_flatMap]
  simp only [mem_signatureTriggersOf, Declares]
  tauto

end Providers

/-! ### Options of features -/

/-- **Options announce a character**: they list it among those that ask for a feature, or among
those that ask for it again. -/
def Json.Announces (options : Json) (ch : String) : Prop :=
  ∃ key ∈ ["triggerCharacters", "retriggerCharacters"], ∃ chars : List String,
    options.get? key = some (encode chars) ∧ ch ∈ chars

lemma encode_texts_injective : Function.Injective (encode : List String → Json) := by
  intro a b h
  have hmap : a.map Json.str = b.map Json.str := Json.arr.inj h
  exact List.map_injective_iff.mpr (fun _ _ => Json.str.inj) hmap

/-- Options with one list announce what is in the list. -/
lemma Json.announces_iff_mem {options : Json} {chars : List String}
    (htrigger : options.get? "triggerCharacters" = some (encode chars))
    (hretrigger : options.get? "retriggerCharacters" = none) (ch : String) :
    options.Announces ch ↔ ch ∈ chars := by
  simp [Announces, htrigger, hretrigger, encode_texts_injective.eq_iff]

namespace Session

variable {π : Type} {s : Session π} {capability method : String} {options : Json} {ch : String}

/-- **What the client is told about a feature**: with the answer to its introduction, if nothing is
to be registered later, or with a registration. -/
inductive Tells (s : Session π) (capability method : String) (options : Json) : Prop where
  | answer (p : InitializeParams) (v : Json) (hstart : (s.start p).1 = .ok v)
    (hnow : p.dynamicFeatures = false)
    (hoptions : v.at? ["capabilities", capability] = some options)
  | registration (c : Json) (cs : List Json)
    (hparams : registrationParams s.laterCapabilities = Json.object [("registrations", .arr cs)])
    (hmem : c ∈ cs) (hmethod : c.get? "method" = some (.str method))
    (hoptions : c.get? "registerOptions" = some options)

lemma capabilities_congr {s s' : Session π} (later : Bool)
    (hproviders : s'.language.providers = s.language.providers)
    (hcommands : s'.language.commands = s.language.commands) :
    s'.capabilities later = s.capabilities later := by
  simp only [capabilities, providerCapabilities, completionOptions, signatureOptions,
    commandOptions, hproviders, hcommands]

lemma capabilities_openGate (s : Session π) (gate : GateName) (value : Json) (later : Bool) :
    (s.openGate gate value).2.capabilities later = s.capabilities later := by
  rw [openGate]
  dsimp only
  split <;> exact capabilities_congr later rfl rfl

/-- The answer to an introduction holds the capabilities. -/
lemma capabilities_of_start {p : InitializeParams} {v : Json} (h : (s.start p).1 = .ok v) :
    v.get? "capabilities" = some (s.capabilities p.dynamicFeatures) := by
  rw [start] at h
  split at h
  · cases h
  · obtain rfl := Except.ok.inj h
    refine congrArg some ?_
    split <;> split <;> exact (capabilities_openGate _ _ _ _).trans (capabilities_congr _ rfl rfl)

/-- What the providers can do stands last, and of the fields of an object the last one counts. -/
lemma get?_capabilities (h : s.providerCapabilities.reverse.lookup capability = some options) :
    (s.capabilities false).get? capability = some options := by
  rw [capabilities, if_neg Bool.false_ne_true, Json.object, Json.get?, Json.lookup_sortFields,
    List.reverse_append, List.lookup_append, h]
  rfl

/-- What the client is told about completion and signature help are their options, and in a later
registration the documents that they are for. -/
lemma Tells.cases (h : s.Tells capability method options) :
    (s.capabilities false).get? capability = some options ∨
      ∃ c ∈ s.laterCapabilities, c.method = method ∧ c.options = options := by
  cases h with
  | answer p v hstart hnow hoptions =>
    rw [Json.at?, capabilities_of_start hstart, hnow, Option.bind_some, Json.at?] at hoptions
    obtain ⟨w, hw, heq⟩ := Option.bind_eq_some_iff.mp hoptions
    obtain rfl : w = options := Option.some.inj heq
    exact .inl hw
  | registration c cs hparams hmem hmethod hoptions =>
    obtain rfl : s.laterCapabilities.map Capability.toJson = cs := by
      simpa [registrationParams, Json.object, Json.sortFields, Json.insertField] using hparams
    obtain ⟨c, hc, rfl⟩ := List.mem_map.mp hmem
    refine .inr ⟨c, hc, ?_, ?_⟩
    · exact Json.str.inj (Option.some.inj hmethod)
    · exact Option.some.inj hoptions

lemma Tells.completion (h : s.Tells "completionProvider" Method.completion options) :
    options.get? "triggerCharacters" = some (encode s.language.providers.completionTriggers) ∧
      options.get? "retriggerCharacters" = none := by
  rcases h.cases with hnow | ⟨c, hc, hmethod, rfl⟩
  · have hstands : (s.capabilities false).get? "completionProvider" =
        some (Json.object s.completionOptions) := get?_capabilities rfl
    obtain rfl := Option.some.inj (hstands.symm.trans hnow)
    exact ⟨rfl, rfl⟩
  · rw [laterCapabilities, List.mem_cons, List.mem_cons, List.mem_singleton] at hc
    rcases hc with rfl | rfl | rfl
    · exact ⟨rfl, rfl⟩
    · exact absurd (show Method.signatureHelp = Method.completion from hmethod) (by decide)
    · exact absurd (show Method.executeCommand = Method.completion from hmethod) (by decide)

lemma Tells.signature (h : s.Tells "signatureHelpProvider" Method.signatureHelp options) :
    options.get? "triggerCharacters" = some (encode s.language.providers.signatureTriggers) ∧
      options.get? "retriggerCharacters" = none := by
  rcases h.cases with hnow | ⟨c, hc, hmethod, rfl⟩
  · have hstands : (s.capabilities false).get? "signatureHelpProvider" =
        some (Json.object s.signatureOptions) := get?_capabilities rfl
    obtain rfl := Option.some.inj (hstands.symm.trans hnow)
    exact ⟨rfl, rfl⟩
  · rw [laterCapabilities, List.mem_cons, List.mem_cons, List.mem_singleton] at hc
    rcases hc with rfl | rfl | rfl
    · exact absurd (show Method.completion = Method.signatureHelp from hmethod) (by decide)
    · exact ⟨rfl, rfl⟩
    · exact absurd (show Method.executeCommand = Method.signatureHelp from hmethod) (by decide)

/-- A registration tells the client about both features. -/
lemma tells_laterCapabilities (s : Session π) {c : Capability} (hc : c ∈ s.laterCapabilities) :
    s.Tells capability c.method c.options :=
  .registration c.toJson _ rfl (List.mem_map_of_mem hc) rfl rfl

/-- **What is announced is what is accepted, but for retriggers.** Both lists that the client is
told strictly increase. A character is announced for completion exactly if a provider declares it,
that is, if one accepts the request that typing it makes. One of signature help is accepted exactly
if it is announced, or if signatures are shown already and some provider declares it for that case.
So all characters that are accepted are announced exactly if each of those is also declared as one
that asks for signatures in the first place. -/
theorem announces_iff (s : Session π) :
    let p := s.language.providers
    (∃ options, s.Tells "completionProvider" Method.completion options) ∧
    (∃ options, s.Tells "signatureHelpProvider" Method.signatureHelp options) ∧
    (∀ options, s.Tells "completionProvider" Method.completion options →
      (∃ chars : List String, options.get? "triggerCharacters" = some (encode chars) ∧
        chars.Pairwise (· < ·)) ∧
      ∀ ch, (options.Announces ch ↔
          ∃ m, p.Declares .completion (.completion m) ∧ ch ∈ m.triggers) ∧
        ∀ m, p.Declares .completion (.completion m) →
          (ch ∈ m.triggers ↔ m.accepts ⟨.character, some ch⟩ = true)) ∧
    ∀ options, s.Tells "signatureHelpProvider" Method.signatureHelp options →
      (∃ chars : List String, options.get? "triggerCharacters" = some (encode chars) ∧
        chars.Pairwise (· < ·)) ∧
      (∀ ch again, (∃ m, p.Declares .signatureHelp (.signature m) ∧
          m.accepts ⟨.character, some ch, again⟩ = true) ↔
        options.Announces ch ∨
          again = true ∧ ∃ m, p.Declares .signatureHelp (.signature m) ∧ ch ∈ m.retriggers) ∧
      ((∀ ch again m, p.Declares .signatureHelp (.signature m) →
          m.accepts ⟨.character, some ch, again⟩ = true → options.Announces ch) ↔
        ∀ ch m, p.Declares .signatureHelp (.signature m) → ch ∈ m.retriggers →
          ∃ m', p.Declares .signatureHelp (.signature m') ∧ ch ∈ m'.triggers) := by
  intro p
  refine ⟨⟨_, s.tells_laterCapabilities (.head _)⟩,
    ⟨_, s.tells_laterCapabilities (.tail _ (.head _))⟩, fun options h => ?_, fun options h => ?_⟩
  · obtain ⟨htrigger, hretrigger⟩ := h.completion
    refine ⟨⟨_, htrigger, pairwise_sortedUnique _⟩,
      fun ch => ⟨?_, fun m _ => (m.accepts_character ch).symm⟩⟩
    rw [Json.announces_iff_mem htrigger hretrigger, Providers.mem_completionTriggers]
  · obtain ⟨htrigger, hretrigger⟩ := h.signature
    have hannounces (ch : String) : options.Announces ch ↔
        ∃ m, p.Declares .signatureHelp (.signature m) ∧ ch ∈ m.triggers := by
      rw [Json.announces_iff_mem htrigger hretrigger, Providers.mem_signatureTriggers]
    refine ⟨⟨_, htrigger, pairwise_sortedUnique _⟩, fun ch again => ?_, ?_, ?_⟩
    · rw [hannounces]
      constructor
      · rintro ⟨m, hm, haccepts⟩
        rcases (m.accepts_character ch again).mp haccepts with hch | ⟨hagain, hch⟩
        · exact .inl ⟨m, hm, hch⟩
        · exact .inr ⟨hagain, m, hm, hch⟩
      · rintro (⟨m, hm, hch⟩ | ⟨hagain, m, hm, hch⟩)
        · exact ⟨m, hm, (m.accepts_character ch again).mpr (.inl hch)⟩
        · exact ⟨m, hm, (m.accepts_character ch again).mpr (.inr ⟨hagain, hch⟩)⟩
    · intro hall ch m hm hch
      have haccepts := (m.accepts_character ch true).mpr (.inr ⟨rfl, hch⟩)
      exact (hannounces ch).mp (hall ch true m hm haccepts)
    · intro hall ch again m hm haccepts
      rw [hannounces]
      rcases (m.accepts_character ch again).mp haccepts with hch | ⟨-, hch⟩
      · exact ⟨m, hm, hch⟩
      · exact hall ch m hm hch

/-- A provider that shows signatures after an opening parenthesis, and goes on after a comma. -/
def parenthesisRun : List (SessionAction Unit) :=
  [.register .signatureHelp ⟨[.any]⟩ () (.signature ⟨["("], [","]⟩)]

/-- A client that registers nothing later. -/
def plainClient : InitializeParams := ⟨none, none, Json.object [], none⟩

/-- The client is told of the parenthesis alone, while the provider accepts the comma too. -/
theorem announces_iff_comma :
    let s := run {} parenthesisRun
    let options := Json.object [("triggerCharacters", .arr [.str "("])]
    (∃ v, (s.start plainClient).1 = .ok v ∧
      v.at? ["capabilities", "signatureHelpProvider"] = some options) ∧
    (∃ m, s.language.providers.Declares .signatureHelp (.signature m) ∧
      m.accepts ⟨.character, some ",", true⟩ = true) ∧
    ¬ options.Announces "," := by
  intro s options
  obtain ⟨-, -, -, hsignature⟩ := announces_iff s
  obtain ⟨v, hv⟩ : ∃ v, (s.start plainClient).1 = .ok v := ⟨_, rfl⟩
  have htriggers : s.language.providers.signatureTriggers = ["("] := by decide +kernel
  have hoptions : v.at? ["capabilities", "signatureHelpProvider"] = some options := by
    have hnow : (s.capabilities false).get? "signatureHelpProvider" =
        some (Json.object s.signatureOptions) := get?_capabilities rfl
    rw [signatureOptions, htriggers] at hnow
    have hlater : plainClient.dynamicFeatures = false := rfl
    rw [Json.at?, capabilities_of_start hv, hlater, Option.bind_some, Json.at?, hnow]
    rfl
  obtain ⟨-, haccepts, -⟩ := hsignature options (.answer plainClient v hv rfl hoptions)
  have hdeclares : s.language.providers.Declares .signatureHelp (.signature ⟨["("], [","]⟩) :=
    ⟨_, List.mem_singleton_self _, rfl⟩
  refine ⟨⟨v, hv, hoptions⟩, (haccepts "," true).mpr (.inr ⟨rfl, _, hdeclares, .head _⟩), ?_⟩
  have honly : options.Announces "," ↔ "," ∈ ["("] := Json.announces_iff_mem rfl rfl ","
  rw [honly]
  decide

end Session

end ProviderHub
