import Backtest.Proofs.Pieces
import Backtest.Proofs.ReadAhead

/-!
# Quotes in yen

A file is read in two ways: its ticks from the bytes of its lines, and whether it quotes in yen from its
text. The two agree on the first line, as a newline is one byte and no part of another character. So where
the first tick stands on the first line, alone and unbroken, it is the digits behind the point of its ask
that decide.

* `decode?_firstLine`, the text of the first line of bytes;
* `stripBy_firstTextLine`, that line in both readings; `decimalPlaces_eq`, the places of a number;
* `QuoteLine`, a line with a tick and nothing else; `QuoteLine.isJpyQuoted`, what it is taken for;
* `TickSource.quotes_by_ask`, the main statement; `TickSource.not_quotes_by_ask`, ticks that stand
  otherwise.
-/

namespace Backtest

open Reader Text

/-! ### The first line of a text -/

/-- The characters up to the first newline, and the newline. -/
def firstCharLine (cs : List Char) : List Char :=
  cs.takeWhile (· != '\n') ++ (cs.dropWhile (· != '\n')).take 1

theorem firstLine_append_of_notMem {bs : List UInt8} (h : 10 ∉ bs) (cs : List UInt8) :
    firstLine (bs ++ cs) = bs ++ firstLine cs := by
  induction bs with
  | nil => rfl
  | cons b bs ih =>
    obtain ⟨hb, hbs⟩ := not_or.mp (mt List.mem_cons.mpr h)
    rw [List.cons_append, firstLine, if_neg (by simpa using Ne.symm hb), ih hbs, List.cons_append]

theorem firstLine_flatMap (cs : List Char) :
    firstLine (cs.flatMap String.utf8EncodeChar) =
      (firstCharLine cs).flatMap String.utf8EncodeChar := by
  induction cs with
  | nil => rfl
  | cons c cs ih =>
    by_cases hc : c = '\n'
    · subst hc
      rfl
    · have hkept : (c != '\n') = true := bne_iff_ne.mpr hc
      have hchars : firstCharLine (c :: cs) = c :: firstCharLine cs := by
        rw [firstCharLine, List.takeWhile_cons, List.dropWhile_cons, if_pos hkept, if_pos hkept]
        rfl
      rw [List.flatMap_cons, firstLine_append_of_notMem (mt newline_of_mem_encode hc), ih, hchars,
        List.flatMap_cons]

/-- The first line of the bytes of a text is the first line of the text. -/
theorem decode?_firstLine {bs : List UInt8} {s : String} (h : decode? bs = some s) :
    decode? (firstLine bs) = some (String.ofList (firstCharLine s.toList)) := by
  rw [decode?_iff] at h ⊢
  rw [String.toList_ofList, ← firstLine_flatMap, h]

theorem firstLine_firstLine (bs : List UInt8) : firstLine (firstLine bs) = firstLine bs := by
  induction bs with
  | nil => rfl
  | cons b bs ih =>
    by_cases hb : (b == 10) = true
    · simp [firstLine, hb]
    · simp [firstLine, hb, ih]

/-- The text of a first line is a first line. -/
theorem firstCharLine_firstLine {bs : List UInt8} {text : String}
    (h : decode? (firstLine bs) = some text) : firstCharLine text.toList = text.toList := by
  have hline := decode?_firstLine h
  rw [firstLine_firstLine, h, Option.some.injEq] at hline
  exact String.toList_ofList.symm.trans (congrArg String.toList hline).symm

/-! ### The first line in both readings -/

theorem stripBy_append_of_forall {p : Char → Bool} {b : List Char} (h : ∀ c ∈ b, p c = true)
    (cs : List Char) : stripBy p (cs ++ b) = stripBy p cs := by
  induction b using List.reverseRecOn with
  | nil => rw [List.append_nil]
  | append_singleton b c ih =>
    rw [← List.append_assoc, stripBy_concat (h c (by simp)), ih fun d hd => h d (by simp [hd])]

/-- A text in which only blanks stand behind a carriage return. -/
def Unbroken (text : List Char) : Prop := (text.dropWhile (· != '\r')).all isBlank = true

instance decidableUnbroken (text : List Char) : Decidable (Unbroken text) :=
  inferInstanceAs (Decidable (_ = true))

/-- A first line that no carriage return breaks is the same in both readings, blanks aside. -/
theorem stripBy_firstTextLine {cs : List Char} (h : Unbroken (firstCharLine cs)) :
    stripBy isBlank (cs.takeWhile fun c => c != '\n' && c != '\r') =
      stripBy isBlank (firstCharLine cs) := by
  obtain ⟨line, hline⟩ : ∃ line, line = cs.takeWhile (· != '\n') := ⟨_, rfl⟩
  obtain ⟨newline, hnewline⟩ : ∃ newline, newline = (cs.dropWhile (· != '\n')).take 1 := ⟨_, rfl⟩
  have hstart : cs.takeWhile (fun c => c != '\n' && c != '\r') = line.takeWhile (· != '\r') := by
    rw [hline, List.takeWhile_takeWhile]
    congr 1
    funext c
    rw [Bool.decide_and, Bool.decide_eq_true, Bool.decide_eq_true, Bool.and_comm]
  have hchars : firstCharLine cs = line ++ newline := by rw [hline, hnewline, firstCharLine]
  rw [Unbroken, hchars, List.dropWhile_append] at h
  have hsplit : line ++ newline =
      line.takeWhile (· != '\r') ++ (line.dropWhile (· != '\r') ++ newline) := by
    rw [← List.append_assoc, List.takeWhile_append_dropWhile]
  rw [hstart, hchars, hsplit, stripBy_append_of_forall]
  split at h
  · -- no carriage return at all: what follows is the newline, if there is one
    rename_i hnone
    rw [List.isEmpty_iff.mp hnone, List.nil_append]
    intro c hc
    have hnext := List.head?_dropWhile_not (· != '\n') cs
    rw [hnewline] at hc
    cases hrest : cs.dropWhile (· != '\n') with
    | nil => simp [hrest] at hc
    | cons d rest =>
      rw [hrest] at hc hnext
      obtain rfl := List.mem_singleton.mp hc
      obtain rfl : c = '\n' := by simpa using hnext
      decide
  · exact List.all_eq_true.mp h

/-! ### Decimal places -/

/-- What stands behind the first point of a number. -/
def behindPoint (field : String) : List Char := (field.toList.dropWhile (· != '.')).drop 1

/-- The digits that follow the point of a number. -/
def digitsBehindPoint (field : String) : ℕ := ((behindPoint field).takeWhile isDecimalDigit).length

theorem isDecimalDigit_point : isDecimalDigit '.' = false := by decide

/-- Where only digits stand behind the first point, they are the decimal places. -/
theorem decimalPlaces_eq {field : String} (h : (behindPoint field).all isDecimalDigit = true) :
    TickSource.decimalPlaces field = digitsBehindPoint field := by
  have hdigits : digitsBehindPoint field = (behindPoint field).length := by
    rw [digitsBehindPoint, List.takeWhile_eq_self_iff.mpr (List.all_eq_true.mp h)]
  have hsplit := List.takeWhile_append_dropWhile (p := (· != '.')) (l := field.toList)
  rw [TickSource.decimalPlaces, hdigits, behindPoint]
  rw [behindPoint] at h
  cases hrest : field.toList.dropWhile (· != '.') with
  | nil =>
    have hnone : '.' ∉ field.toList := by
      intro hmem
      simpa using List.dropWhile_eq_nil_iff.mp hrest '.' hmem
    simp only [List.contains_iff_mem, if_neg hnone]
    rfl
  | cons d after =>
    have hd := List.head?_dropWhile_not (· != '.') field.toList
    rw [hrest] at h hd hsplit
    simp at hd
    subst hd
    have hafter : ∀ c ∈ after.reverse, (c != '.') = true := by
      intro c hc
      have hdigit := List.all_eq_true.mp h c (List.mem_reverse.mp hc)
      refine bne_iff_ne.mpr fun hpoint => ?_
      rw [hpoint, isDecimalDigit_point] at hdigit
      exact Bool.false_ne_true hdigit
    rw [← hsplit, List.reverse_append, List.reverse_cons, List.append_assoc,
      List.takeWhile_append_of_pos hafter]
    simp

/-! ### Lines with a tick and nothing else -/

/-- The line of a record in the bytes of its file. -/
def Record.lineIn (file : List UInt8) (r : Record) : List UInt8 :=
  (file.drop r.position.toNat).take (r.next - r.position).toNat

/-- The text of a line that holds a time, a bid and an ask and nothing else. No carriage return breaks it,
and the ask has only digits behind its point. -/
structure QuoteLine (text time bid ask : String) : Prop where
  fields : splitOn ',' (strip text) = [time, bid, ask]
  unbroken : Unbroken text.toList
  places : (behindPoint ask).all isDecimalDigit = true

/-- A first line that holds a tick and nothing else is taken for the quote of its ask. -/
theorem QuoteLine.isJpyQuoted {path text time bid ask : String} {file : List UInt8}
    (hahead : (TickSource.readAhead? file 0).isSome) (hline : decode? (firstLine file) = some text)
    (h : QuoteLine text time bid ask) :
    (TickSource.file path file).isJpyQuoted = (TickSource.jpyByPlaces ask).mapError .config := by
  obtain ⟨content, hcontent⟩ := Option.isSome_iff_exists.mp hahead
  have hfirst : strip (TickSource.firstTextLine content) = strip text := by
    have hunbroken := h.unbroken
    rw [← firstCharLine_firstLine hline] at hunbroken
    rw [TickSource.firstTextLine_readAhead? hcontent hline, strip, strip, TickSource.firstTextLine,
      String.toList_ofList, stripBy_firstTextLine hunbroken, firstCharLine_firstLine hline]
  have hne : (strip text).isEmpty = false := by
    rw [Bool.eq_false_iff]
    intro hempty
    have hfields := h.fields
    rw [String.isEmpty_iff.mp hempty] at hfields
    simp [splitOn] at hfields
  simp only [TickSource.isJpyQuoted, hcontent, hfirst, hne, h.fields]
  rfl

namespace TickSource

/-- The first record of a file that stands at its start is that of its first line. -/
theorem readLine?_firstLine {path : String} {file : List UInt8} {r : Record} {later : List Record}
    {fault : Option Fault} (hread : ((TickSource.file path file).readFrom 0).records = (r :: later, fault))
    (hfirst : r.position = 0) :
    readLine? (firstLine file) = some r.tick ∧ r.lineIn file = firstLine file := by
  have hlines := linesRead path 0 file
  have hreader : (TickSource.file path file).readFrom 0 = .lines path 0 file := rfl
  rw [← hreader, hread] at hlines
  generalize hls : ((LineAt.placed 0 (lines file)).filter fun l => !isBlankLine l.bytes) = ls at hlines
  cases hlines with
  | record ht hlater =>
    rename_i l ls t
    have hl : l ∈ LineAt.placed 0 (lines file) := List.mem_of_mem_filter (hls ▸ List.mem_cons_self)
    -- nothing stands before a line that starts at the first byte
    obtain ⟨before, after, hfile, hstart, -, hline⟩ := LineAt.mem_placed_lines.mp hl
    obtain rfl : before = [] := by
      rw [← List.length_eq_zero_iff]
      simp only at hfirst
      omega
    have hbytes : firstLine file = l.bytes := by
      rw [hfile]
      exact (firstLine_append hline).1
    refine ⟨hbytes ▸ ht, ?_⟩
    rw [hbytes, Record.lineIn, hfile]
    simp [LineAt.stop, hstart]

/-- Whether prices are quoted in yen is decided by the ask of the first tick: by the number of digits
behind its point, if the tick stands on the first line, unbroken and with nothing else, and what is read
ahead is a text. -/
theorem quotes_by_ask {path : String} {file : List UInt8} {r : Record} {later : List Record}
    {fault : Option Fault} {text time bid ask : String}
    (hread : ((TickSource.file path file).readFrom 0).records = (r :: later, fault))
    (hahead : (readAhead? file 0).isSome) (hfirst : r.position = 0)
    (htext : decode? (r.lineIn file) = some text) (h : QuoteLine text time bid ask) :
    let digits := digitsBehindPoint ask
    let quoted := (TickSource.file path file).isJpyQuoted
    Decimal.readFloat? ask = some r.tick.ask ∧
      (digits = 3 → quoted = .ok true) ∧
      (digits = 5 → quoted = .ok false) ∧
      (digits ≠ 3 → digits ≠ 5 → quoted = .error (.config (.decimalPlaces digits ask))) := by
  intro digits quoted
  obtain ⟨ht, hline⟩ := readLine?_firstLine hread hfirst
  rw [hline] at htext
  have hquoted : quoted = (jpyByPlaces ask).mapError .config := h.isJpyQuoted hahead htext
  have hplaces : decimalPlaces ask = digits := decimalPlaces_eq h.places
  rw [jpyByPlaces, hplaces] at hquoted
  refine ⟨?_, fun h3 => ?_, fun h5 => ?_, fun h3 h5 => ?_⟩
  · obtain ⟨text', time', bid', ask', more, moment, htext', hfields, -, -, -, hask⟩ :=
      readLine?_eq_some.mp ht
    obtain rfl := Option.some.inj (htext.symm.trans htext')
    rw [h.fields] at hfields
    simp only [List.cons.injEq] at hfields
    obtain ⟨-, -, rfl, -⟩ := hfields
    exact hask
  · rw [hquoted, h3]
    rfl
  · rw [hquoted, h5]
    rfl
  · rw [hquoted, if_neg (by simpa using h3), if_neg (by simpa using h5)]
    rfl

/-- A first tick with three digits behind the point of its ask, on a line that ends with a carriage return
too. -/
theorem quotes_by_ask_yen :
    let file := "01/05/2014 17:00:05,104.915, 104.935\r\n01/05/2014 17:00:09,104.92,104.94\n".toUTF8.toList
    let source := TickSource.file "ticks.csv" file
    ∃ r later fault, (source.readFrom 0).records = (r :: later, fault) ∧ r.position = 0 ∧
      decode? (r.lineIn file) = some "01/05/2014 17:00:05,104.915, 104.935\r\n" ∧
      Decimal.readFloat? " 104.935" = some r.tick.ask ∧ source.isJpyQuoted = .ok true := by
  intro file source
  have hshape : (source.readFrom 0).records.1.map (fun r => (r.position, r.next)) =
      [(0, 38), (38, 72)] := by decide +kernel
  obtain ⟨r, later, hrecords, hr, -⟩ := List.map_eq_cons_iff.mp hshape
  obtain ⟨hfirst, hnext⟩ := Prod.mk.inj hr
  have htext : decode? (r.lineIn file) = some "01/05/2014 17:00:05,104.915, 104.935\r\n" := by
    rw [Record.lineIn, hfirst, hnext]
    decide +kernel
  have hcontent : (decode? file).isSome := by decide +kernel
  have hquote : QuoteLine "01/05/2014 17:00:05,104.915, 104.935\r\n" "01/05/2014 17:00:05" "104.915"
      " 104.935" := ⟨by decide +kernel, by decide +kernel, by decide +kernel⟩
  have hquotes := quotes_by_ask (Prod.ext hrecords rfl) (isSome_readAhead? hcontent 0) hfirst htext
    hquote
  exact ⟨r, later, _, Prod.ext hrecords rfl, hfirst, htext, hquotes.1, hquotes.2.1 (by decide +kernel)⟩

/-- The digits of the ask do not decide if a blank line comes before the first tick, nor if another field
follows the ask. -/
theorem not_quotes_by_ask :
    (let file := "\n01/05/2014 17:00:05,104.915,104.935\n".toUTF8.toList
     let source := TickSource.file "ticks.csv" file
     ∃ r text, (source.readFrom 0).records.1 = [r] ∧ decode? (r.lineIn file) = some text ∧
       splitOn ',' (strip text) = ["01/05/2014 17:00:05", "104.915", "104.935"] ∧
       digitsBehindPoint "104.935" = 3 ∧
       source.isJpyQuoted = .error (.config (.tickFileEmpty "ticks.csv"))) ∧
    (let file := "01/05/2014 17:00:05,104.915,104.935,0.00001\n".toUTF8.toList
     let source := TickSource.file "ticks.csv" file
     ∃ r text, (source.readFrom 0).records.1 = [r] ∧ decode? (r.lineIn file) = some text ∧
       splitOn ',' (strip text) = ["01/05/2014 17:00:05", "104.915", "104.935", "0.00001"] ∧
       digitsBehindPoint "104.935" = 3 ∧ source.isJpyQuoted = .ok false) := by
  constructor
  · intro file source
    have hshape : (source.readFrom 0).records.1.map (fun r => (r.position, r.next)) = [(1, 37)] := by
      decide +kernel
    obtain ⟨r, hrecords, hr⟩ := List.map_eq_singleton_iff.mp hshape
    obtain ⟨hposition, hnext⟩ := Prod.mk.inj hr
    have htext : decode? (r.lineIn file) = some "01/05/2014 17:00:05,104.915,104.935\n" := by
      rw [Record.lineIn, hposition, hnext]
      decide +kernel
    have hcontent : decode? file = some "\n01/05/2014 17:00:05,104.915,104.935\n" := by decide +kernel
    refine ⟨r, _, hrecords, htext, by decide +kernel, by decide +kernel, ?_⟩
    simp only [source, isJpyQuoted, readAhead?_of_short hcontent (by decide +kernel)]
    rfl
  · intro file source
    have hshape : (source.readFrom 0).records.1.map (fun r => (r.position, r.next)) = [(0, 44)] := by
      decide +kernel
    obtain ⟨r, hrecords, hr⟩ := List.map_eq_singleton_iff.mp hshape
    obtain ⟨hposition, hnext⟩ := Prod.mk.inj hr
    have htext : decode? (r.lineIn file) = some "01/05/2014 17:00:05,104.915,104.935,0.00001\n" := by
      rw [Record.lineIn, hposition, hnext]
      decide +kernel
    have hcontent : decode? file = some "01/05/2014 17:00:05,104.915,104.935,0.00001\n" := by
      decide +kernel
    refine ⟨r, _, hrecords, htext, by decide +kernel, by decide +kernel, ?_⟩
    simp only [source, isJpyQuoted, readAhead?_of_short hcontent (by decide +kernel)]
    rfl

end TickSource

end Backtest
