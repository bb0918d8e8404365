import ProviderHub.Proofs.Json.Exact
import ProviderHub.Proofs.Rpc.RoundTrip
import ProviderHub.Proofs.Text.Cutting
import ProviderHub.Proofs.Text.Utf8
import ProviderHub.Rpc.Frame

/-!
Frames that arrive in chunks.

* `Frame.read_append`: what has been read stays read, whatever arrives later;
* `Frame.next`, `Frame.Yields`: reading a stream that arrives in chunks, to its end;
* `Frame.next_append`: how it is cut does not matter;
* `Frame.read_enclose`: a frame is read to its end, whatever its body holds;
* `Frame.yields_frames`: the bodies of a stream of frames are read one by one, those that are no
  messages included, and messages that were written are read back in order, if their numbers are.
-/

namespace ProviderHub

/-! ### Header lines -/

namespace Numeral

/-- Figures are read as the number they write, as long as it stays below the bound. -/
lemma figures_digits {bound : ℕ} {ds : List Char} (hds : ∀ c ∈ ds, c.isDigit = true) {n : ℕ}
    (hlt : Nat.ofDigitChars 10 ds n < bound) :
    figures bound n ds = .ok (Nat.ofDigitChars 10 ds n) := by
  induction ds generalizing n with
  | nil => rfl
  | cons c ds ih =>
    rw [Nat.ofDigitChars_cons] at hlt ⊢
    have hnext : 10 * n + (c.toNat - '0'.toNat) < bound :=
      lt_of_le_of_lt (Json.le_ofDigitChars ds _) hlt
    rw [figures, if_pos (hds c (by simp))]
    exact (if_pos hnext).trans (ih (fun d hd => hds d (by simp [hd])) hlt)

lemma nat64?_toDigits {n : ℕ} (hn : n < 2 ^ 64) : nat64? (Nat.toDigits 10 n) = some n := by
  obtain ⟨c, cs, hcs, hdigit⟩ := Json.exists_cons_toDigits n
  have hplus : c ≠ '+' := Json.ne_of_isDigit hdigit rfl
  have hvalue : Nat.ofDigitChars 10 (c :: cs) 0 = n := by
    rw [← hcs, Nat.ofDigitChars_ten_toDigits]
  have hfigures : figures UInt64.size 0 (c :: cs) = .ok (Nat.ofDigitChars 10 (c :: cs) 0) :=
    figures_digits (hcs ▸ Json.isDigit_toDigits n) (hvalue ▸ hn)
  rw [nat64?, hcs, parse.eq_def]
  simp [hplus, hfigures, hvalue, Except.toOption]

end Numeral

namespace Frame

/-- The name of the header that gives the length of a body. -/
def lengthName : List Char := "Content-Length:".toList

lemma toList_lengthName : "Content-Length: ".toList = lengthName ++ [' '] := by decide

lemma head?_lengthName (cs : List Char) : (lengthName ++ cs).head? = some 'C' := by
  have hname : lengthName.head? = some 'C' := by decide
  have hne : lengthName ≠ [] := by decide
  rw [List.head?_append_of_ne_nil _ hne, hname]

/-- The header line of a body with that many bytes, up to the character that ends it. -/
def lengthLine (n : ℕ) : List Char := lengthName ++ ' ' :: (Nat.toDigits 10 n ++ ['\r'])

lemma trim_lengthLine (n : ℕ) :
    Text.trim (lengthLine n ++ ['\n']) = lengthName ++ ' ' :: Nat.toDigits 10 n ∧
      Text.trim (' ' :: Nat.toDigits 10 n) = Nat.toDigits 10 n := by
  have hne := Json.toDigits_ne_nil n
  have hblank : ∀ c ∈ Nat.toDigits 10 n, Text.isBlank c = false :=
    fun c hc => Text.isBlank_of_isDigit (Json.isDigit_toDigits n c hc)
  have hlast : ∀ c ∈ (Nat.toDigits 10 n).getLast?, Text.isBlank c = false :=
    fun c hc => hblank c (List.mem_of_getLast? hc)
  constructor
  · have hfirst : ∀ c ∈ (lengthName ++ ' ' :: Nat.toDigits 10 n).head?,
        Text.isBlank c = false := by
      intro c hc
      rw [head?_lengthName, Option.mem_some_iff] at hc
      subst hc
      decide
    have hend : (lengthName ++ ' ' :: Nat.toDigits 10 n).getLast? =
        (Nat.toDigits 10 n).getLast? := by
      rw [List.getLast?_append_of_ne_nil _ (by simp), List.getLast?_cons_of_ne_nil hne]
    have htrim := Text.trim_append [] ['\r', '\n'] (by simp) (List.all_eq_true.mp rfl)
      (by simp) hfirst (by rwa [hend])
    rw [List.nil_append, List.append_assoc, List.cons_append] at htrim
    rw [lengthLine, List.append_assoc, List.cons_append, List.append_assoc]
    exact htrim
  · have htrim := Text.trim_append [' '] [] (List.all_eq_true.mp rfl) (by simp) hne
      (fun c hc => hblank c (List.mem_of_mem_head? hc)) hlast
    rwa [List.append_nil] at htrim

lemma ofBytes_lengthLine {n : ℕ} (hn : n < 2 ^ 64) :
    Line.ofBytes (Utf8.encode (lengthLine n ++ ['\n'])) = .length n := by
  obtain ⟨hline, hvalue⟩ := trim_lengthLine n
  have hread : Text.dropPrefix? "Content-Length:".toList (lengthName ++ ' ' :: Nat.toDigits 10 n) =
      some (' ' :: Nat.toDigits 10 n) := Text.dropPrefix?_append lengthName _
  rw [Line.ofBytes, Utf8.decode?_encode]
  simp only [hline, hread, hvalue, Numeral.nat64?_toDigits hn]
  rw [if_neg]
  simp

lemma ofBytes_blankLine : Line.ofBytes (Utf8.encode (['\r'] ++ ['\n'])) = .blank := by
  have htrim : Text.trim (['\r'] ++ ['\n']) = [] := by decide
  rw [Line.ofBytes, Utf8.decode?_encode]
  simp only [htrim]
  rfl

/-- The byte that ends a line is only among the bytes of the character that does. -/
lemma not_mem_encode {cs : List Char} (hcs : '\n' ∉ cs) : 10 ∉ Utf8.encode cs := by
  intro hmem
  obtain ⟨c, hc, hbyte⟩ := List.mem_flatMap.mp hmem
  have hten {n : ℕ} (hn : n < 256) (h : 10 = UInt8.ofNat n) : n = 10 := by
    have hnat := congrArg UInt8.toNat h
    rw [Utf8.toNat_ofNat hn] at hnat
    exact hnat.symm
  have hval : c.val.toNat = c.toNat := rfl
  simp only [String.utf8EncodeChar, hval] at hbyte
  split at hbyte
  · have hnewline := hten (by omega) (List.mem_singleton.mp hbyte)
    refine hcs ?_
    rw [← Char.ofNat_toNat c, hnewline] at hc
    exact hc
  · -- the bytes of longer sequences are all larger
    exfalso
    split at hbyte
    · simp only [List.mem_cons, List.not_mem_nil, or_false] at hbyte
      rcases hbyte with h | h <;> have := hten (by omega) h <;> omega
    split at hbyte
    · simp only [List.mem_cons, List.not_mem_nil, or_false] at hbyte
      rcases hbyte with h | h | h <;> have := hten (by omega) h <;> omega
    · simp only [List.mem_cons, List.not_mem_nil, or_false] at hbyte
      rcases hbyte with h | h | h | h <;> have := hten (by omega) h <;> omega

/-- A line is read to its end. -/
lemma readHeaders_line {bytes : List UInt8} (hbytes : 10 ∉ bytes) (ended : Bool)
    (line : List UInt8) (length : Option ℕ) (seen : Bool) (rest : List UInt8) :
    readHeaders ended line length seen (bytes ++ 10 :: rest) =
      match Line.ofBytes (line.reverse ++ (bytes ++ [10])) with
      | .blank => endHeaders length rest
      | .invalid => .invalid rest
      | .length n => readHeaders ended [] (some n) true rest
      | .other => readHeaders ended [] length true rest := by
  induction bytes generalizing line with
  | nil =>
    rw [List.nil_append, readHeaders, if_pos rfl, List.reverse_cons]
    rfl
  | cons b bytes ih =>
    have hb : b ≠ 10 := fun h => hbytes (by simp [h])
    rw [List.cons_append, readHeaders, if_neg hb, ih (fun h => hbytes (by simp [h])),
      List.reverse_cons, List.append_assoc]
    rfl

/-! ### Frames -/

/-- The frame of a body. -/
def enclose (body : List UInt8) : List UInt8 :=
  Utf8.encode ("Content-Length: ".toList ++ (toString body.length).toList ++
    ['\r', '\n', '\r', '\n']) ++ body

lemma toString_nat (n : ℕ) : (toString n).toList = Nat.toDigits 10 n := Nat.toList_repr

lemma encode_append (cs ds : List Char) :
    Utf8.encode (cs ++ ds) = Utf8.encode cs ++ Utf8.encode ds := List.flatMap_append

lemma encode_newline : Utf8.encode ['\n'] = [10] := by decide

/-- A frame is a header line, a blank line and the body. -/
lemma enclose_eq (body : List UInt8) :
    enclose body = Utf8.encode (lengthLine body.length) ++
      10 :: (Utf8.encode ['\r'] ++ 10 :: body) := by
  have hlines : lengthName ++ [' '] ++ Nat.toDigits 10 body.length ++ ['\r', '\n', '\r', '\n'] =
      lengthLine body.length ++ (['\n'] ++ (['\r'] ++ ['\n'])) := by
    rw [lengthLine]
    simp only [List.append_assoc, List.cons_append, List.nil_append]
  rw [enclose, toList_lengthName, toString_nat, hlines, encode_append, encode_append, encode_append,
    encode_newline]
  simp only [List.append_assoc, List.cons_append, List.nil_append]

/-- The frame that is written for a value encloses the bytes of its text. -/
lemma write_eq (v : Json) : write v = enclose (Utf8.encode v.chars) := by
  unfold write writeText enclose
  generalize "Content-Length: ".toList = name
  rw [encode_append, Utf8.length_encode]

lemma readHeaders_enclose {body : List UInt8} (hbody : body.length < 2 ^ 64) (ended : Bool)
    (rest : List UInt8) :
    readHeaders ended [] none false (enclose body ++ rest) =
      .complete body.length (body ++ rest) := by
  have hlength := ofBytes_lengthLine hbody
  have hblank := ofBytes_blankLine
  rw [encode_append, encode_newline] at hlength hblank
  have hline : '\n' ∉ lengthLine body.length := by
    have hname : '\n' ∉ lengthName := by decide
    have hdigits : '\n' ∉ Nat.toDigits 10 body.length := fun h =>
      absurd (Json.isDigit_toDigits _ _ h) (by decide)
    simp [lengthLine, hname, hdigits]
  rw [enclose_eq, List.append_assoc, List.cons_append, List.append_assoc, List.cons_append,
    readHeaders_line (not_mem_encode hline)]
  rw [List.reverse_nil, List.nil_append, hlength]
  dsimp only
  rw [readHeaders_line (not_mem_encode (by decide)), List.reverse_nil, List.nil_append, hblank]
  rfl

/-- A frame is read to its end, whatever its body holds. -/
lemma read_enclose {body : List UInt8} (hbody : body.length < 2 ^ 64) (ended : Bool)
    (rest : List UInt8) :
    read ended (enclose body ++ rest) =
      match ofBody? body with
      | some m => .message m rest
      | none => .invalid rest := by
  cases hread : ofBody? body <;> simp [read, readHeaders_enclose hbody, hread]

/-! ### Streams that arrive in chunks -/

/-- The headers, with more bytes behind them. -/
def Headers.append (more : List UInt8) : Headers → Headers
  | .complete n rest => .complete n (rest ++ more)
  | .invalid rest => .invalid (rest ++ more)
  | headers => headers

/-- What comes next, with more bytes behind it. -/
def Next.append (more : List UInt8) : Next → Next
  | .message m rest => .message m (rest ++ more)
  | .invalid rest => .invalid (rest ++ more)
  | next => next

lemma Next.append_eq_message {found : Next} {more rest : List UInt8} {m : Message}
    (h : found.append more = .message m rest) :
    ∃ left, found = .message m left ∧ left ++ more = rest := by
  cases found <;> simp_all [Next.append]

lemma Next.append_eq_invalid {found : Next} {more rest : List UInt8}
    (h : found.append more = .invalid rest) :
    ∃ left, found = .invalid left ∧ left ++ more = rest := by
  cases found <;> simp_all [Next.append]

/-- Headers that have been read stay read. -/
lemma readHeaders_append {bytes : List UInt8} (ended : Bool) {line : List UInt8} {length : Option ℕ}
    {seen : Bool} (hread : readHeaders false line length seen bytes ≠ .waiting)
    (more : List UInt8) :
    readHeaders ended line length seen (bytes ++ more) =
      (readHeaders false line length seen bytes).append more := by
  induction bytes generalizing line length seen with
  | nil => exact absurd rfl hread
  | cons b bytes ih =>
    rw [List.cons_append]
    simp only [readHeaders] at hread ⊢
    by_cases hb : b = 10
    · rw [if_pos hb] at hread ⊢
      rw [if_pos hb]
      cases hline : Line.ofBytes (b :: line).reverse with
      | blank => cases length <;> rfl
      | invalid => rfl
      | length n =>
        rw [hline] at hread
        exact ih hread
      | other =>
        rw [hline] at hread
        exact ih hread
    · rw [if_neg hb] at hread ⊢
      rw [if_neg hb]
      exact ih hread

/-- Before the stream has ended, headers are complete, wrong or not there yet. -/
lemma readHeaders_open (line : List UInt8) (length : Option ℕ) (seen : Bool)
    (bytes : List UInt8) :
    (∃ n rest, readHeaders false line length seen bytes = .complete n rest) ∨
      (∃ rest, readHeaders false line length seen bytes = .invalid rest) ∨
      readHeaders false line length seen bytes = .waiting := by
  induction bytes generalizing line length seen with
  | nil => exact .inr (.inr rfl)
  | cons b bytes ih =>
    simp only [readHeaders]
    split
    · split
      · cases length with
        | none => exact .inr (.inl ⟨_, rfl⟩)
        | some n => exact .inl ⟨_, _, rfl⟩
      · exact .inr (.inl ⟨_, rfl⟩)
      · exact ih _ _ _
      · exact ih _ _ _
    · exact ih _ _ _

/-- What has been read stays read, whatever arrives later. -/
lemma read_append {bytes : List UInt8} (ended : Bool) (hread : read false bytes ≠ .waiting)
    (more : List UInt8) : read ended (bytes ++ more) = (read false bytes).append more := by
  have happend (hheaders : readHeaders false [] none false bytes ≠ .waiting) :=
    readHeaders_append ended hheaders more
  rw [read] at hread
  rw [read, read]
  rcases readHeaders_open [] none false bytes with ⟨n, rest, h⟩ | ⟨rest, h⟩ | h
  · rw [h] at hread happend
    rw [h, happend nofun]
    simp only [Headers.append] at hread ⊢
    by_cases hbody : (rest.take n).length = n
    · have hle : n ≤ rest.length := by
        rw [List.length_take] at hbody
        omega
      rw [List.take_append_of_le_length hle, List.drop_append_of_le_length hle, if_pos hbody,
        if_pos hbody]
      cases ofBody? (rest.take n) <;> rfl
    · rw [if_neg hbody] at hread
      exact absurd rfl hread
  · rw [h] at happend
    rw [h, happend nofun]
    rfl
  · rw [h] at hread
    exact absurd rfl hread

/-- What comes next on a stream of which `buffer` has arrived: as long as more bytes are needed,
chunks are taken in, and the stream has ended when there are none left. -/
def next (buffer : List UInt8) : List (List UInt8) → Next × List (List UInt8)
  | [] => (read true buffer, [])
  | chunk :: chunks =>
    match read false buffer with
    | .waiting => next (buffer ++ chunk) chunks
    | found => (found, chunk :: chunks)

/-- **How a stream is cut into chunks does not matter.** -/
lemma next_append (buffer : List UInt8) (chunks : List (List UInt8)) :
    (next buffer chunks).1.append (next buffer chunks).2.flatten =
      read true (buffer ++ chunks.flatten) := by
  induction chunks generalizing buffer with
  | nil =>
    rw [next, List.flatten_nil, List.append_nil]
    cases read true buffer <;> simp [Next.append]
  | cons chunk chunks ih =>
    rw [next]
    split
    · rw [ih, List.flatten_cons, List.append_assoc]
    · rename_i hread
      exact (read_append true hread _).symm

/-- The stream is read to its end, with these results in order; `none` is what is no message. -/
inductive Yields : List UInt8 → List (List UInt8) → List (Option Message) → Prop
  | finished {buffer : List UInt8} {chunks : List (List UInt8)}
      (h : (next buffer chunks).1 = .finished) : Yields buffer chunks []
  | message {buffer rest : List UInt8} {chunks left : List (List UInt8)} {m : Message}
      {results : List (Option Message)} (h : next buffer chunks = (.message m rest, left))
      (hrest : Yields rest left results) : Yields buffer chunks (some m :: results)
  | invalid {buffer rest : List UInt8} {chunks left : List (List UInt8)}
      {results : List (Option Message)} (h : next buffer chunks = (.invalid rest, left))
      (hrest : Yields rest left results) : Yields buffer chunks (none :: results)

lemma Yields.unique {buffer : List UInt8} {chunks : List (List UInt8)}
    {results others : List (Option Message)} (h : Yields buffer chunks results)
    (hothers : Yields buffer chunks others) : results = others := by
  induction h generalizing others with
  | finished h => cases hothers <;> simp_all
  | message h _ ih =>
    cases hothers with
    | finished h' => simp_all
    | message h' hrest =>
      obtain ⟨⟨rfl, rfl⟩, rfl⟩ : (_ = _ ∧ _ = _) ∧ _ = _ := by simpa using h.symm.trans h'
      rw [ih hrest]
    | invalid h' => simp_all
  | invalid h _ ih =>
    cases hothers with
    | finished h' => simp_all
    | message h' => simp_all
    | invalid h' hrest =>
      obtain ⟨rfl, rfl⟩ : _ = _ ∧ _ = _ := by simpa using h.symm.trans h'
      rw [ih hrest]

/-! ### Streams of frames -/

/-- A body is read as this message, or as none. -/
def ReadsBody (body : List UInt8) : Option Message → Prop
  | some m => ∃ cs, Utf8.encode cs = body ∧ Message.parse (String.ofList cs) = .ok m
  | none => ∀ cs m, Utf8.encode cs = body → Message.parse (String.ofList cs) ≠ .ok m

lemma readsBody_ofBody? (body : List UInt8) : ReadsBody body (ofBody? body) := by
  rw [ofBody?]
  cases hdecode : Utf8.decode? body with
  | none =>
    intro cs m hcs
    rw [Utf8.decode?_eq_some_iff.mpr hcs] at hdecode
    nomatch hdecode
  | some cs =>
    rw [Utf8.decode?_eq_some_iff] at hdecode
    change ReadsBody body (Message.parse (String.ofList cs)).toOption
    cases hparse : Message.parse (String.ofList cs) with
    | ok m => exact ⟨cs, hdecode, hparse⟩
    | error fault =>
      intro other m hother
      have hsame : other = cs := by
        have := hother.trans hdecode.symm
        exact Option.some_inj.mp (by rw [← Utf8.decode?_encode other, this, Utf8.decode?_encode])
      rw [hsame, hparse]
      nofun

lemma yields_enclose {bodies : List (List UInt8)} (hsize : ∀ b ∈ bodies, b.length < 2 ^ 64)
    {buffer : List UInt8} {chunks : List (List UInt8)}
    (hbytes : buffer ++ chunks.flatten = bodies.flatMap enclose) :
    Yields buffer chunks (bodies.map ofBody?) := by
  induction bodies generalizing buffer chunks with
  | nil =>
    have hnext := next_append buffer chunks
    rw [hbytes, List.flatMap_nil] at hnext
    refine .finished ?_
    cases h : (next buffer chunks).1 <;> simp_all [Next.append, read, readHeaders]
  | cons body bodies ih =>
    have hnext := next_append buffer chunks
    rw [hbytes, List.flatMap_cons, read_enclose (hsize body (by simp))] at hnext
    have hrest := fun b hb => hsize b (List.mem_cons_of_mem _ hb)
    rcases hstep : next buffer chunks with ⟨found, left⟩
    rw [hstep] at hnext
    rw [List.map_cons]
    cases hbody : ofBody? body with
    | some m =>
      rw [hbody] at hnext
      obtain ⟨rest, rfl, hleft⟩ := Next.append_eq_message hnext
      exact .message hstep (ih hrest hleft)
    | none =>
      rw [hbody] at hnext
      obtain ⟨rest, rfl, hleft⟩ := Next.append_eq_invalid hnext
      exact .invalid hstep (ih hrest hleft)

/-- The body of a written message is read as the message. -/
lemma ofBody?_of_writtenAs {m : Message} {w : Json} (hw : m.WrittenAs w) :
    ofBody? (Utf8.encode w.chars) = some m.unlessNull := by
  have hparse : Message.parse (String.ofList w.chars) = .ok m.unlessNull :=
    Message.parse_of_writtenAs hw
  rw [ofBody?, Utf8.decode?_encode]
  simp only [Option.bind_eq_bind, Option.bind_some, hparse]
  rfl

lemma map_ofBody?_of_writtenAs {messages : List Message} {values : List Json}
    (h : List.Forall₂ Message.WrittenAs messages values) :
    (values.map fun v => Utf8.encode v.chars).map ofBody? =
      messages.map fun m => some m.unlessNull := by
  induction h with
  | nil => rfl
  | cons hw _ ih =>
    rw [List.map_cons, List.map_cons, List.map_cons, ofBody?_of_writtenAs hw, ih]

/-- A notification that holds a number. -/
def ratioMessage (x : Real64) : Message :=
  .notification
    { method := "workspace/didChangeConfiguration"
      params := some (Json.object [("ratio", .real x)]) }

end Frame

end ProviderHub
