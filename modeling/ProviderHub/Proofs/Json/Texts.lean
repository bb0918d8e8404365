import ProviderHub.Proofs.Json.Scalars

/-!
A written value is read back.

* `Json.Valid`: the values whose numbers are read back from their texts;
* `Json.sorted`: the value with the fields of every object in order, as they are after reading;
* `Json.tokens?_chars`: the text of a value is cut into its tokens;
* `Json.assemble_tokens`: the tokens of a value are put together again;
* `Json.parse?_render`: the text of a value is read as the value, its fields in order.
-/

namespace ProviderHub.Json

/-! ### Values -/

/-- Every integer fits 64 bits, signed or unsigned, and every double is read back from its text. -/
def Valid : Json → Prop
  | .int n => -2 ^ 63 ≤ n ∧ n < 2 ^ 64
  | .real r => r.ReadsBack
  | .arr items => validItems items
  | .obj fields => validFields fields
  | _ => True
where
  validItems : List Json → Prop
    | [] => True
    | v :: rest => v.Valid ∧ validItems rest
  validFields : List (String × Json) → Prop
    | [] => True
    | (_, v) :: rest => v.Valid ∧ validFields rest

/-- The value with the fields of every object in order; of two fields with one key the later is
kept. -/
def sorted : Json → Json
  | .arr items => .arr (sortedItems items)
  | .obj fields => object (sortedFields fields)
  | v => v
where
  sortedItems : List Json → List Json
    | [] => []
    | v :: rest => v.sorted :: sortedItems rest
  sortedFields : List (String × Json) → List (String × Json)
    | [] => []
    | (k, v) :: rest => (k, v.sorted) :: sortedFields rest

mutual

/-- The tokens of a value. -/
def tokens : Json → List Token
  | .arr [] => [.openArr, .closeArr]
  | .arr (v :: rest) => .openArr :: (tokens v ++ itemTokens rest)
  | .obj [] => [.openObj, .closeObj]
  | .obj ((k, v) :: rest) => .openObj :: .scalar (.str k) :: .colon :: (tokens v ++ fieldTokens rest)
  | v => [.scalar v]

/-- The tokens of the items after the first one, with the closing bracket. -/
def itemTokens : List Json → List Token
  | [] => [.closeArr]
  | v :: rest => .comma :: (tokens v ++ itemTokens rest)

/-- The tokens of the fields after the first one, with the closing brace. -/
def fieldTokens : List (String × Json) → List Token
  | [] => [.closeObj]
  | (k, v) :: rest => .comma :: .scalar (.str k) :: .colon :: (tokens v ++ fieldTokens rest)

end

/-! ### From the text to the tokens -/

lemma delimited_itemChars (items : List Json) (rest : List Char) :
    Delimited (itemChars items ++ rest) := by
  intro c hc
  cases items <;> (simp [itemChars] at hc; simp [← hc])

lemma delimited_fieldChars (fields : List (String × Json)) (rest : List Char) :
    Delimited (fieldChars fields ++ rest) := by
  intro c hc
  cases fields <;> (simp [fieldChars] at hc; simp [← hc])

lemma delimited_nil : Delimited [] := by simp [Delimited]

/-- A punctuation character is a token. -/
lemma tokens?_punctuation {c : Char} {token : Token}
    (hscan : ∀ cs, Token.scan c cs = some (token, cs)) (hblank : isBlank c = false)
    (cs : List Char) : tokens? (c :: cs) = (tokens? cs).map (token :: ·) :=
  tokens?_of_scan hblank (hscan cs)

mutual

/-- **The text of a value is cut into its tokens.** -/
lemma tokens?_chars (v : Json) (hv : v.Valid) {rest : List Char} (hrest : Delimited rest) :
    tokens? (v.chars ++ rest) = (tokens? rest).map (v.tokens ++ ·) := by
  match v with
  | .null => exact tokens?_of_scan rfl rfl
  | .bool true => exact tokens?_of_scan rfl rfl
  | .bool false => exact tokens?_of_scan rfl rfl
  | .int n => exact tokens?_int hv.1 hv.2 hrest
  | .real r => exact tokens?_real hv hrest
  | .str s => exact tokens?_quote s rest
  | .arr [] =>
    rw [chars, List.cons_append, List.cons_append, List.nil_append,
      tokens?_punctuation (fun _ => rfl) rfl, tokens?_punctuation (fun _ => rfl) rfl,
      Option.map_map]
    rfl
  | .arr (v :: items) =>
    obtain ⟨hv, hitems⟩ := hv
    rw [chars, List.cons_append, List.append_assoc, tokens?_punctuation (fun _ => rfl) rfl,
      tokens?_chars v hv (delimited_itemChars items rest), tokens?_itemChars items hitems,
      Option.map_map, Option.map_map]
    simp [Function.comp_def, tokens]
  | .obj [] =>
    rw [chars, List.cons_append, List.cons_append, List.nil_append,
      tokens?_punctuation (fun _ => rfl) rfl, tokens?_punctuation (fun _ => rfl) rfl,
      Option.map_map]
    rfl
  | .obj ((k, v) :: fields) =>
    obtain ⟨hv, hfields⟩ := hv
    rw [chars, List.cons_append, List.append_assoc, List.cons_append, List.append_assoc,
      tokens?_punctuation (fun _ => rfl) rfl, tokens?_quote, tokens?_punctuation (fun _ => rfl) rfl,
      tokens?_chars v hv (delimited_fieldChars fields rest), tokens?_fieldChars fields hfields]
    simp [Function.comp_def, tokens]

lemma tokens?_itemChars (items : List Json) (hitems : Valid.validItems items) {rest : List Char} :
    tokens? (itemChars items ++ rest) = (tokens? rest).map (itemTokens items ++ ·) := by
  match items with
  | [] => exact tokens?_of_scan rfl rfl
  | v :: items =>
    obtain ⟨hv, hitems⟩ := hitems
    rw [itemChars, List.cons_append, List.append_assoc, tokens?_punctuation (fun _ => rfl) rfl,
      tokens?_chars v hv (delimited_itemChars items rest), tokens?_itemChars items hitems]
    simp [Function.comp_def, itemTokens]

lemma tokens?_fieldChars (fields : List (String × Json)) (hfields : Valid.validFields fields)
    {rest : List Char} :
    tokens? (fieldChars fields ++ rest) = (tokens? rest).map (fieldTokens fields ++ ·) := by
  match fields with
  | [] => exact tokens?_of_scan rfl rfl
  | (k, v) :: fields =>
    obtain ⟨hv, hfields⟩ := hfields
    rw [fieldChars, List.cons_append, List.append_assoc, List.cons_append, List.append_assoc,
      tokens?_punctuation (fun _ => rfl) rfl, tokens?_quote, tokens?_punctuation (fun _ => rfl) rfl,
      tokens?_chars v hv (delimited_fieldChars fields rest), tokens?_fieldChars fields hfields]
    simp [Function.comp_def, fieldTokens]

end

/-! ### From the tokens to the value -/

/-- What the machine does after a value that stands inside `stack`. -/
def resume (value : Json) (stack : List Open) (rest : List Token) : Option (List Open × Expect) :=
  (close value stack).bind fun (stack, expect) => assemble stack expect rest

lemma resume_arr (value : Json) (items : List Json) (stack : List Open) (rest : List Token) :
    resume value (.arr items :: stack) rest =
      assemble (.arr (value :: items) :: stack) .commaOrClose rest := rfl

lemma resume_objAt (value : Json) (fields : List (String × Json)) (key : String)
    (stack : List Open) (rest : List Token) :
    resume value (.objAt fields key :: stack) rest =
      assemble (.obj ((key, value) :: fields) :: stack) .commaOrClose rest := rfl

lemma assemble_cons {stack stack' : List Open} {expect expect' : Expect} {token : Token}
    (hstep : advance stack expect token = some (stack', expect')) (rest : List Token) :
    assemble stack expect (token :: rest) = assemble stack' expect' rest := by
  rw [assemble, hstep, Option.bind_some]

mutual

/-- **The tokens of a value are put together again**, with the fields of its objects in order. -/
lemma assemble_tokens (v : Json) {stack : List Open} {expect : Expect}
    (hexpect : expect = .value ∨ expect = .valueOrClose)
    (hdepth : stack.length + v.depth ≤ maxDepth) (rest : List Token) :
    assemble stack expect (v.tokens ++ rest) = resume v.sorted stack rest := by
  match v with
  | .null | .bool _ | .int _ | .real _ | .str _ =>
    rcases hexpect with rfl | rfl <;> rfl
  | .arr [] =>
    rw [depth] at hdepth
    have hlt : stack.length < maxDepth := by omega
    rcases hexpect with rfl | rfl <;>
      simp [tokens, assemble, advance, hlt, sorted, sorted.sortedItems, resume]
  | .arr (v :: items) =>
    rw [depth, depth.depthItems] at hdepth
    have hlt : stack.length < maxDepth := by omega
    have hopen : assemble stack expect (tokens (.arr (v :: items)) ++ rest) =
        assemble (.arr [] :: stack) .valueOrClose (tokens v ++ (itemTokens items ++ rest)) := by
      rcases hexpect with rfl | rfl <;> simp [tokens, assemble, advance, hlt]
    rw [hopen, assemble_tokens v (.inr rfl) (by simp only [List.length_cons]; omega), resume_arr,
      assemble_itemTokens items (by omega), sorted, sorted.sortedItems]
    rfl
  | .obj [] =>
    rw [depth] at hdepth
    have hlt : stack.length < maxDepth := by omega
    rcases hexpect with rfl | rfl <;>
      simp [tokens, assemble, advance, hlt, sorted, sorted.sortedFields, resume]
  | .obj ((k, v) :: fields) =>
    rw [depth, depth.depthFields] at hdepth
    have hlt : stack.length < maxDepth := by omega
    have hopen : assemble stack expect (tokens (.obj ((k, v) :: fields)) ++ rest) =
        assemble (.objAt [] k :: stack) .value (tokens v ++ (fieldTokens fields ++ rest)) := by
      rcases hexpect with rfl | rfl <;> simp [tokens, assemble, advance, hlt]
    rw [hopen, assemble_tokens v (.inl rfl) (by simp only [List.length_cons]; omega), resume_objAt,
      assemble_fieldTokens fields (by omega), sorted, sorted.sortedFields]
    rfl

lemma assemble_itemTokens (items : List Json) {before : List Json} {stack : List Open}
    (hdepth : stack.length + 1 + depth.depthItems items ≤ maxDepth) (rest : List Token) :
    assemble (.arr before :: stack) .commaOrClose (itemTokens items ++ rest) =
      resume (.arr (before.reverse ++ sorted.sortedItems items)) stack rest := by
  match items with
  | [] => simp [itemTokens, assemble, advance, sorted.sortedItems, resume]
  | v :: items =>
    rw [depth.depthItems] at hdepth
    rw [itemTokens, List.cons_append, List.append_assoc, assemble_cons rfl,
      assemble_tokens v (.inl rfl) (by simp only [List.length_cons]; omega), resume_arr,
      assemble_itemTokens items (by omega), sorted.sortedItems,
      List.reverse_cons, List.append_assoc]
    rfl

lemma assemble_fieldTokens (fields : List (String × Json)) {before : List (String × Json)}
    {stack : List Open} (hdepth : stack.length + 1 + depth.depthFields fields ≤ maxDepth)
    (rest : List Token) :
    assemble (.obj before :: stack) .commaOrClose (fieldTokens fields ++ rest) =
      resume (object (before.reverse ++ sorted.sortedFields fields)) stack rest := by
  match fields with
  | [] => simp [fieldTokens, assemble, advance, sorted.sortedFields, resume]
  | (k, v) :: fields =>
    rw [depth.depthFields] at hdepth
    rw [fieldTokens, List.cons_append, List.cons_append, List.cons_append, List.append_assoc,
      assemble_cons rfl, assemble_cons rfl, assemble_cons rfl,
      assemble_tokens v (.inl rfl) (by simp only [List.length_cons]; omega), resume_objAt,
      assemble_fieldTokens fields (by omega), sorted.sortedFields,
      List.reverse_cons, List.append_assoc]
    rfl

end

/-- **The text of a value is read as the value**, with the fields of its objects in order. -/
lemma parse?_render {v : Json} (hv : v.Valid) (hdepth : v.depth ≤ maxDepth) :
    parse? v.render = some v.sorted := by
  have htokens := tokens?_chars v hv delimited_nil
  have hlength : ([] : List Open).length + v.depth ≤ maxDepth := by simpa using hdepth
  have hassemble := assemble_tokens v (.inl (rfl : Expect.value = .value)) hlength []
  rw [List.append_nil, tokens?, Option.map_some, List.append_nil] at htokens
  rw [List.append_nil] at hassemble
  rw [parse?, parseChars?, render, String.toList_ofList, htokens, Option.bind_some, hassemble]
  rfl

end ProviderHub.Json
