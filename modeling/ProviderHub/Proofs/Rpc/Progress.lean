import ProviderHub.Proofs.Rpc.Frames

/-!
A stream is read to its end.

* `Frame.IsLine`, `Frame.HeaderLines`: the lines of a stream that has ended, and those of them that
  do not end the headers of a frame;
* `Frame.EndsInHeaders`, `Frame.EndsInBody`: the stream ends within a frame;
* `Frame.readHeaders_fits`, `Frame.read_fits`: what can come next, and what it takes;
* `Frame.Calls`: reading on, as long as something comes;
* `Frame.readAll_stops`: this ends, and how.
-/

namespace ProviderHub.Frame

/-! ### Lines -/

/-- **A line of a stream that has ended**, with what follows it: it goes up to the first newline, or
to the end of the stream if there is none. -/
def IsLine (line rest : List UInt8) : Prop :=
  (∃ text, 10 ∉ text ∧ line = text ++ [10]) ∨ (line ≠ [] ∧ 10 ∉ line ∧ rest = [])

variable {line rest bytes left : List UInt8} {given length : Option ℕ} {seen : Bool}

lemma IsLine.ne_nil (h : IsLine line rest) : line ≠ [] := by
  rcases h with ⟨text, -, rfl⟩ | ⟨hne, -⟩
  · exact List.append_ne_nil_of_right_ne_nil text (List.cons_ne_nil _ _)
  · exact hne

/-- A stream starts with a line, unless it has come to its end. -/
lemma exists_isLine (hbytes : bytes ≠ []) :
    ∃ line rest, IsLine line rest ∧ bytes = line ++ rest := by
  by_cases hnewline : 10 ∈ bytes
  · obtain ⟨text, rest, rfl, htext⟩ := List.eq_append_cons_of_mem hnewline
    exact ⟨text ++ [10], rest, .inl ⟨text, htext, rfl⟩, by simp⟩
  · exact ⟨bytes, [], .inr ⟨hbytes, hnewline, rfl⟩, (List.append_nil bytes).symm⟩

lemma readHeaders_open_line {text : List UInt8} (htext : 10 ∉ text) (line : List UInt8) :
    readHeaders true line given seen text =
      readHeaders true (text.reverse ++ line) given seen [] := by
  induction text generalizing line with
  | nil => rfl
  | cons b text ih =>
    have hb : b ≠ 10 := fun h => htext (by simp [h])
    have hstep : readHeaders true line given seen (b :: text) =
      readHeaders true (b :: line) given seen text := if_neg hb
    rw [hstep, ih (fun h => htext (by simp [h])), List.reverse_cons, List.append_assoc]
    rfl

/-- The headers go by lines, also if the stream ends within one. -/
lemma readHeaders_isLine (h : IsLine line rest) :
    readHeaders true [] given seen (line ++ rest) =
      match Line.ofBytes line with
      | .blank => endHeaders given rest
      | .invalid => .invalid rest
      | .length n => readHeaders true [] (some n) true rest
      | .other => readHeaders true [] given true rest := by
  rcases h with ⟨text, htext, rfl⟩ | ⟨hne, hline, rfl⟩
  · rw [List.append_assoc, List.singleton_append, readHeaders_line htext]
    rfl
  · rw [List.append_nil, readHeaders_open_line hline, List.append_nil, readHeaders, if_pos rfl,
      if_neg (by simpa using hne), List.reverse_reverse]
    cases Line.ofBytes line <;> rfl

/-- **Header lines** at the start of a stream, none of which ends the headers. The length is the one
that the last of them gives, or else the one that was given before. -/
inductive HeaderLines : Option ℕ → List UInt8 → Option ℕ → List UInt8 → Prop
  | none (given : Option ℕ) (bytes : List UInt8) : HeaderLines given bytes given bytes
  | other {given length : Option ℕ} {line rest left : List UInt8} :
      IsLine line rest → Line.ofBytes line = .other →
      HeaderLines given rest length left → HeaderLines given (line ++ rest) length left
  | length {given length : Option ℕ} {line rest left : List UInt8} {n : ℕ} :
      IsLine line rest → Line.ofBytes line = .length n →
      HeaderLines (some n) rest length left → HeaderLines given (line ++ rest) length left

lemma HeaderLines.suffix (h : HeaderLines given bytes length left) : left <:+ bytes := by
  induction h with
  | none => exact List.suffix_refl _
  | other _ _ _ ih => exact ih.trans (List.suffix_append _ _)
  | length _ _ _ ih => exact ih.trans (List.suffix_append _ _)

/-! ### What comes next -/

/-- **The stream ends within the headers of a frame.** -/
def EndsInHeaders (bytes : List UInt8) : Prop :=
  bytes ≠ [] ∧ ∃ length, HeaderLines none bytes length []

/-- **The stream ends within the body of a frame**: after the line that ends the headers there are
fewer bytes than they say. -/
def EndsInBody (bytes : List UInt8) : Prop :=
  ∃ n blank body, HeaderLines none bytes (some n) (blank ++ body) ∧ IsLine blank body ∧
    Line.ofBytes blank = .blank ∧ body.length < n

/-- What the header lines of a stream that has ended can come to. -/
def Headers.Fits (given : Option ℕ) (seen : Bool) (bytes : List UInt8) : Headers → Prop
  | .complete n rest => ∃ blank, HeaderLines given bytes (some n) (blank ++ rest) ∧
      IsLine blank rest ∧ Line.ofBytes blank = .blank
  | .invalid rest => ∃ length line, HeaderLines given bytes length (line ++ rest) ∧ IsLine line rest
  | .truncated => (seen = true ∨ bytes ≠ []) ∧ ∃ length, HeaderLines given bytes length []
  | .finished => bytes = [] ∧ seen = false
  | .waiting => False

/-- One more line before the others. -/
lemma Headers.Fits.cons {headers : Headers} {given' : Option ℕ} (h : headers.Fits given' true rest)
    (hne : bytes ≠ []) (hlines : ∀ {length left}, HeaderLines given' rest length left →
      HeaderLines given bytes length left) : headers.Fits given seen bytes := by
  cases headers with
  | complete n rest =>
    obtain ⟨blank, hblank, hline⟩ := h
    exact ⟨blank, hlines hblank, hline⟩
  | invalid rest =>
    obtain ⟨length, line, hbefore, hline⟩ := h
    exact ⟨length, line, hlines hbefore, hline⟩
  | truncated =>
    obtain ⟨-, length, hend⟩ := h
    exact ⟨.inr hne, length, hlines hend⟩
  | finished => cases h.2
  | waiting => exact h

/-- **What the header lines come to**, line by line. -/
lemma readHeaders_fits (given : Option ℕ) (seen : Bool) (bytes : List UInt8) :
    (readHeaders true [] given seen bytes).Fits given seen bytes := by
  -- the induction is on the number of bytes, since every line takes some
  induction hsize : bytes.length using Nat.strong_induction_on generalizing given seen bytes with
  | _ size ih =>
    by_cases hbytes : bytes = []
    · subst hbytes
      cases seen with
      | true => exact ⟨.inl rfl, given, .none given []⟩
      | false => exact ⟨rfl, rfl⟩
    · obtain ⟨line, rest, hline, rfl⟩ := exists_isLine hbytes
      have hshorter : rest.length < size := by
        have := List.length_pos_iff.mpr hline.ne_nil
        rw [← hsize, List.length_append]
        omega
      rw [readHeaders_isLine hline]
      cases hmeaning : Line.ofBytes line with
      | blank =>
        cases given with
        | none => exact ⟨none, line, .none _ _, hline⟩
        | some n => exact ⟨line, .none _ _, hline, hmeaning⟩
      | invalid => exact ⟨given, line, .none _ _, hline⟩
      | length n =>
        exact (ih rest.length hshorter (some n) true rest rfl).cons hbytes
          fun h => .length hline hmeaning h
      | other =>
        exact (ih rest.length hshorter given true rest rfl).cons hbytes
          fun h => .other hline hmeaning h

/-- What can come next on a stream that has ended: something that takes bytes from it, or the end of
the stream, which may be within a frame. -/
def Next.Fits (bytes : List UInt8) : Next → Prop
  | .message _ rest | .invalid rest => ∃ taken, taken ≠ [] ∧ bytes = taken ++ rest
  | .truncated => EndsInHeaders bytes ∨ EndsInBody bytes
  | .finished => bytes = []
  | .waiting => False

/-- A line that has been read is taken from the stream, with all before it. -/
lemma exists_taken (hlines : HeaderLines given bytes length (line ++ left))
    (hline : IsLine line left) (hrest : rest <:+ left) :
    ∃ taken, taken ≠ [] ∧ bytes = taken ++ rest := by
  obtain ⟨before, rfl⟩ := hlines.suffix
  obtain ⟨body, rfl⟩ := hrest
  refine ⟨before ++ (line ++ body), ?_, by simp only [List.append_assoc]⟩
  exact List.append_ne_nil_of_right_ne_nil _ (List.append_ne_nil_of_left_ne_nil hline.ne_nil _)

/-- **What comes next** takes at least one byte, and no more than there are. -/
lemma read_fits (bytes : List UInt8) : (read true bytes).Fits bytes := by
  have hheaders := readHeaders_fits none false bytes
  rw [read]
  cases hread : readHeaders true [] none false bytes with
  | complete n rest =>
    rw [hread] at hheaders
    obtain ⟨blank, hlines, hblank, hmeaning⟩ := hheaders
    dsimp only
    split
    · have htaken := exists_taken hlines hblank (List.drop_suffix n rest)
      cases ofBody? (rest.take n) <;> exact htaken
    · rename_i hbody
      rw [List.length_take] at hbody
      exact .inr ⟨n, blank, rest, hlines, hblank, hmeaning, by omega⟩
  | invalid rest =>
    rw [hread] at hheaders
    obtain ⟨length, line, hlines, hline⟩ := hheaders
    exact exists_taken hlines hline (List.suffix_refl rest)
  | truncated =>
    rw [hread] at hheaders
    obtain ⟨hne, hend⟩ := hheaders
    exact .inl ⟨hne.resolve_left Bool.false_ne_true, hend⟩
  | finished =>
    rw [hread] at hheaders
    exact hheaders.1
  | waiting =>
    rw [hread] at hheaders
    exact hheaders

/-- No more bytes are needed once the stream has ended. -/
lemma read_ended_ne_waiting (bytes : List UInt8) : read true bytes ≠ .waiting := by
  intro hread
  have hfits := read_fits bytes
  rw [hread] at hfits
  exact hfits

/-- What comes next leaves less than there was, also before the stream has ended. -/
lemma length_lt_of_read {ended : Bool} {m : Message}
    (h : read ended bytes = .message m rest ∨ read ended bytes = .invalid rest) :
    rest.length < bytes.length := by
  have hended : read true bytes = .message m rest ∨ read true bytes = .invalid rest := by
    cases ended with
    | true => exact h
    | false =>
      have hread : read false bytes ≠ .waiting := by rcases h with h | h <;> rw [h] <;> nofun
      have happend := read_append true hread []
      rw [List.append_nil] at happend
      rw [happend]
      exact h.imp (fun h => by rw [h, Next.append, List.append_nil])
        (fun h => by rw [h, Next.append, List.append_nil])
  have hfits := read_fits bytes
  obtain ⟨taken, hne, rfl⟩ : ∃ taken, taken ≠ [] ∧ bytes = taken ++ rest := by
    rcases hended with hread | hread <;> rw [hread] at hfits <;> exact hfits
  have := List.length_pos_iff.mpr hne
  rw [List.length_append]
  omega

/-! ### Reading on -/

/-- **Calls, one after another**, on a stream that has ended, with their results, and what they
leave: each takes at least one byte and gives a message, or what is no message. -/
inductive Calls : List UInt8 → List Next → List UInt8 → Prop
  | none (bytes : List UInt8) : Calls bytes [] bytes
  | message {taken rest left : List UInt8} {m : Message} {results : List Next} :
      taken ≠ [] → read true (taken ++ rest) = .message m rest → Calls rest results left →
      Calls (taken ++ rest) (.message m rest :: results) left
  | invalid {taken rest left : List UInt8} {results : List Next} :
      taken ≠ [] → read true (taken ++ rest) = .invalid rest → Calls rest results left →
      Calls (taken ++ rest) (.invalid rest :: results) left

variable {results : List Next}

/-- There are no more calls than bytes. -/
lemma Calls.length_le (h : Calls bytes results left) :
    results.length + left.length ≤ bytes.length := by
  induction h with
  | none => exact (Nat.zero_add _).le
  | message hne _ _ ih | invalid hne _ _ ih =>
    have := List.length_pos_iff.mpr hne
    rw [List.length_cons, List.length_append]
    omega

/-- The call after which none follows: the stream is at its end, or ends within a frame. -/
inductive IsLast (left : List UInt8) : Next → Prop
  | finished : left = [] → IsLast left .finished
  | truncated : EndsInHeaders left ∨ EndsInBody left → IsLast left .truncated

/-- Enough calls read a stream to its end. -/
lemma exists_calls_readUpTo {bound : ℕ} (hbound : bytes.length < bound) :
    ∃ results left last, readUpTo bound bytes = results ++ [last] ∧ Calls bytes results left ∧
      read true left = last ∧ IsLast left last := by
  induction bound generalizing bytes with
  | zero => omega
  | succ bound ih =>
    have hfits := read_fits bytes
    rw [readUpTo]
    cases hread : read true bytes with
    | message m rest =>
      rw [hread] at hfits
      have hshorter : rest.length < bytes.length := length_lt_of_read (.inl hread)
      obtain ⟨taken, hne, rfl⟩ := hfits
      obtain ⟨results, left, last, hresults, hcalls, hlast⟩ :=
        ih (hshorter.trans_le (Nat.le_of_lt_succ hbound))
      exact ⟨.message m rest :: results, left, last, congrArg _ hresults,
        .message hne hread hcalls, hlast⟩
    | invalid rest =>
      rw [hread] at hfits
      have hshorter : rest.length < bytes.length := length_lt_of_read (m := default) (.inr hread)
      obtain ⟨taken, hne, rfl⟩ := hfits
      obtain ⟨results, left, last, hresults, hcalls, hlast⟩ :=
        ih (hshorter.trans_le (Nat.le_of_lt_succ hbound))
      exact ⟨.invalid rest :: results, left, last, congrArg _ hresults,
        .invalid hne hread hcalls, hlast⟩
    | truncated =>
      rw [hread] at hfits
      exact ⟨[], bytes, .truncated, rfl, .none bytes, hread, .truncated hfits⟩
    | finished =>
      rw [hread] at hfits
      exact ⟨[], bytes, .finished, rfl, .none bytes, hread, .finished hfits⟩
    | waiting =>
      rw [hread] at hfits
      exact hfits.elim

/-- **Reading goes on and stops.** Whatever the bytes of a stream are, reading it to its end is a
sequence of calls, at most as many as there are bytes, each of which takes at least one byte and no
more than there are, and gives a message or what is no message; and a last call, which finds the
stream exactly at its end, or finds that it ends within the headers or the body of a frame. -/
theorem readAll_stops (bytes : List UInt8) :
    ∃ results left last, readAll bytes = results ++ [last] ∧ Calls bytes results left ∧
      results.length ≤ bytes.length ∧ read true left = last ∧ IsLast left last := by
  obtain ⟨results, left, last, hresults, hcalls, hlast⟩ :=
    exists_calls_readUpTo (Nat.lt_succ_self bytes.length)
  have hcount : results.length ≤ bytes.length :=
    (Nat.le_add_right _ _).trans hcalls.length_le
  exact ⟨results, left, last, hresults, hcalls, hcount, hlast⟩

end ProviderHub.Frame
