import Backtest.Proofs.JsonNumbers

/-!
# What JSON gives back

A value of JSON that is written is read as the value. A text is read unit by unit: a character beyond the
first plane is written as two halves that are joined again. The values that follow each other in a list or
a map end where they should, for what follows them can belong to none of them. A written value has only
visible characters, so it stands on one line.

* `Json.readText?_escape`, a text;
* `Value.IsJson`, the values of JSON; `Json.reads_of_isJson`, what is read of one;
  `Json.read?_write`, a whole text;
* `Json.visible_write`, the characters of a written value.
-/

namespace Backtest

open Text Decimal

namespace Json

variable {cs rest : List Char}

/-! ### Texts -/

theorem hexValue?_hexDigit : ∀ d < 16, hexValue? (hexDigit d) = some d := by decide

/-- A unit of sixteen bits is read as its number. -/
theorem readTextFrom?_unitEscape {n : ℕ} (hn : n < 0x10000) (acc : List ℕ) (rest : List Char) :
    readTextFrom? acc (unitEscape n ++ rest) = readTextFrom? (n :: acc) rest := by
  have hdigits : hexDigits 4 n = [hexDigit (n / 16 / 16 / 16 % 16), hexDigit (n / 16 / 16 % 16),
      hexDigit (n / 16 % 16), hexDigit (n % 16)] := rfl
  have hunit : unit? (hexDigit (n / 16 / 16 / 16 % 16)) (hexDigit (n / 16 / 16 % 16))
      (hexDigit (n / 16 % 16)) (hexDigit (n % 16)) = some n := by
    unfold unit?
    rw [hexValue?_hexDigit _ (by omega), hexValue?_hexDigit _ (by omega), hexValue?_hexDigit _ (by omega),
      hexValue?_hexDigit _ (by omega)]
    refine congrArg some ?_
    omega
  rw [unitEscape, hdigits]
  simp only [List.cons_append, List.nil_append, readTextFrom?, hunit]

/-- The units of sixteen bits of a character: itself, or the two halves of a pair. -/
def units (c : Char) : List ℕ :=
  if c.toNat < 0x10000 then [c.toNat]
  else [0xD800 + (c.toNat - 0x10000) / 0x400, 0xDC00 + (c.toNat - 0x10000) % 0x400]

theorem units_of_lt {c : Char} (h : c.toNat < 0x10000) : units c = [c.toNat] := if_pos h

/-- No character is half of a pair. -/
theorem toNat_cases (c : Char) : c.toNat < 0xD800 ∨ 0xDFFF < c.toNat ∧ c.toNat < 0x110000 := c.valid

/-- The units of a character are joined to the character. -/
theorem joinPairs_units (c : Char) (ns : List ℕ) : joinPairs (units c ++ ns) = c :: joinPairs ns := by
  have hvalid := toNat_cases c
  by_cases hplane : c.toNat < 0x10000
  · rw [units_of_lt hplane]
    cases ns with
    | nil =>
      show [if (decide _ && decide _) = true then _ else Char.ofNat c.toNat] = _
      rw [if_neg, Char.ofNat_toNat]
      · rfl
      · rw [Bool.and_eq_true, decide_eq_true_iff, decide_eq_true_iff]
        omega
    | cons n ns =>
      show joinPairs (c.toNat :: n :: ns) = _
      rw [joinPairs, if_neg, if_neg, Char.ofNat_toNat]
      · rw [Bool.and_eq_true, decide_eq_true_iff, decide_eq_true_iff]
        omega
      · simp only [Bool.and_eq_true, decide_eq_true_iff]
        omega
  · rw [units, if_neg hplane, List.cons_append, List.cons_append, List.nil_append, joinPairs, if_pos]
    · have hback : 0x10000 + (0xD800 + (c.toNat - 0x10000) / 0x400 - 0xD800) * 0x400 +
          (0xDC00 + (c.toNat - 0x10000) % 0x400 - 0xDC00) = c.toNat := by omega
      rw [hback, Char.ofNat_toNat]
    · simp only [Bool.and_eq_true, decide_eq_true_iff]
      omega

theorem joinPairs_flatMap (cs : List Char) : joinPairs (cs.flatMap units) = cs := by
  induction cs with
  | nil => rfl
  | cons c cs ih => rw [List.flatMap_cons, joinPairs_units, ih]

/-- A written character is read as its units. -/
theorem readTextFrom?_escape (c : Char) (acc : List ℕ) (rest : List Char) :
    readTextFrom? acc (escape c ++ rest) = readTextFrom? ((units c).reverse ++ acc) rest := by
  have hvalid := toNat_cases c
  unfold escape
  simp only [beq_iff_eq, Bool.and_eq_true, decide_eq_true_iff]
  split_ifs with hquote hslash hnewline hreturn htab hback hpage hvisible hplane
  · rw [hquote]
    rfl
  · rw [hslash]
    rfl
  · rw [hnewline]
    rfl
  · rw [hreturn]
    rfl
  · rw [htab]
    rfl
  · rw [units_of_lt (by omega), hback]
    rfl
  · rw [units_of_lt (by omega), hpage]
    rfl
  · rw [units_of_lt (by omega)]
    have hslash' : (c == '\\') = false := beq_eq_false_iff_ne.mpr hslash
    rw [List.cons_append, List.nil_append, readTextFrom?, if_neg]
    · rfl
    · rw [hslash', Bool.or_false, decide_eq_true_iff]
      omega
    all_goals simp [hquote, hslash]
  · rw [units_of_lt hplane]
    exact readTextFrom?_unitEscape hplane acc rest
  · rw [List.append_assoc, readTextFrom?_unitEscape (by omega), readTextFrom?_unitEscape (by omega), units,
      if_neg hplane]
    rfl

/-- A written text is read as the text. -/
theorem readText?_escape (s : String) (rest : List Char) :
    readText? (s.toList.flatMap escape ++ '"' :: rest) = some (s, rest) := by
  have hfrom (cs : List Char) (acc : List ℕ) : readTextFrom? acc (cs.flatMap escape ++ '"' :: rest) =
      some (String.ofList (joinPairs (acc.reverse ++ cs.flatMap units)), rest) := by
    induction cs generalizing acc with
    | nil =>
      rw [List.flatMap_nil, List.flatMap_nil, List.append_nil]
      rfl
    | cons c cs ih =>
      rw [List.flatMap_cons, List.append_assoc, readTextFrom?_escape, ih, List.flatMap_cons,
        List.reverse_append, List.reverse_reverse, List.append_assoc]
  rw [readText?, hfrom, List.reverse_nil, List.nil_append, joinPairs_flatMap, String.ofList_toList]

end Json

/-! ### Values -/

/-- The values of JSON: a map has texts as keys, each once. -/
inductive Value.IsJson : Value → Prop
  | null : IsJson .null
  | bool (b : Bool) : IsJson (.bool b)
  | whole (n : ℤ) : IsJson (.whole n)
  | real (x : Float) : IsJson (.real x)
  | text (s : String) : IsJson (.text s)
  | list {items : List Value} (h : ∀ v ∈ items, IsJson v) : IsJson (.list items)
  | record {t : Table Value} (hnames : (t.map (·.1)).Nodup) (h : ∀ e ∈ t, IsJson e.2) : IsJson (.record t)

namespace Json

variable {rest : List Char} {v : Value}

/-- The characters that may stand before a value or end the value around it. -/
def between : List Char := [' ', '\t', '\n', '\r', ',', ':', ']', '\x7d']

/-- There is no white space before a character that is none. -/
theorem skip_cons {c : Char} (hc : c ∉ [' ', '\t', '\n', '\r']) (cs : List Char) : skip (c :: cs) = c :: cs := by
  refine List.dropWhile_cons_of_neg ?_
  simpa [or_assoc] using hc

/-- The text opens with a character that can stand between no two values. -/
def Opens (cs : List Char) : Prop := ∃ c ds, cs = c :: ds ∧ c ∉ between

theorem Opens.append {cs : List Char} (h : Opens cs) (rest : List Char) : Opens (cs ++ rest) := by
  obtain ⟨c, ds, rfl, hc⟩ := h
  exact ⟨c, _, rfl, hc⟩

/-- White space before such a text is skipped, and no more. -/
theorem Opens.skip_eq {cs : List Char} (h : Opens cs) : skip cs = cs ∧ skip (' ' :: cs) = cs := by
  obtain ⟨c, ds, rfl, hc⟩ := h
  have hnone : skip (c :: ds) = c :: ds := by
    refine skip_cons (fun hmem => hc ?_) ds
    simp only [between, List.mem_cons] at hmem ⊢
    tauto
  exact ⟨hnone, hnone⟩

/-- The written items of a list, or entries of a map, one after the other. -/
def joined (texts : List (List Char)) : List Char := [',', ' '].intercalate texts

@[simp] theorem joined_singleton (cs : List Char) : joined [cs] = cs := List.intercalate_singleton

theorem joined_cons_cons (cs ds : List Char) (texts : List (List Char)) :
    joined (cs :: ds :: texts) = cs ++ ',' :: ' ' :: joined (ds :: texts) := by
  rw [joined, List.intercalate_cons_cons, List.append_assoc]
  rfl

theorem writeItems_eq_map (items : List Value) : writeItems items = items.map write := by
  induction items with
  | nil => rfl
  | cons v items ih => rw [writeItems, ih, List.map_cons]

theorem Opens.joined {cs : List Char} (h : Opens cs) (texts : List (List Char)) :
    Opens (joined (cs :: texts)) := by
  cases texts with
  | nil =>
    rw [joined_singleton]
    exact h
  | cons text texts =>
    rw [joined_cons_cons]
    exact h.append _

/-- The text of an item. -/
def itemText (v : Value) : List Char := (write v).toList

/-- The text of an entry. -/
def entryText (e : String × Value) : List Char := (writeText e.1).toList ++ ':' :: ' ' :: itemText e.2

theorem toList_write_list (items : List Value) :
    (write (.list items)).toList = '[' :: (joined (items.map itemText) ++ [']']) := by
  rw [write, Brackets.around, String.toList_append, String.toList_append, String.toList_intercalate,
    writeItems_eq_map, List.map_map]
  rfl

theorem toList_write_record (t : Table Value) :
    (write (.record t)).toList = '\x7b' :: (joined (t.map entryText) ++ ['\x7d']) := by
  have hentries : (writeEntries (t.map fun e => (.text e.1, e.2))).map String.toList = t.map entryText := by
    induction t with
    | nil => rfl
    | cons e t ih =>
      rw [List.map_cons, writeEntries, List.map_cons, List.map_cons, ih, String.toList_append,
        String.toList_append, List.append_assoc]
      rfl
  rw [Value.record, write, Brackets.around, String.toList_append, String.toList_append,
    String.toList_intercalate, hentries]
  rfl

theorem toList_writeText (s : String) : (writeText s).toList = '"' :: (s.toList.flatMap escape ++ ['"']) := by
  rw [writeText, String.toList_ofList]

theorem plainText_null : PlainText (itemText .null) .null := .name "null" (by simp [names])

theorem plainText_bool (b : Bool) : PlainText (itemText (.bool b)) (.bool b) := by
  cases b with
  | false => exact .name "false" (by simp [names])
  | true => exact .name "true" (by simp [names])

/-- A written value that is not nested opens with a character that opens no other value. -/
theorem PlainText.exists_cons {cs : List Char} (h : PlainText cs v) :
    ∃ c ds, cs = c :: ds ∧ c ∉ '"' :: '[' :: '\x7b' :: between := by
  cases h with
  | name word h =>
    simp only [names, List.mem_cons, List.not_mem_nil, or_false, Prod.mk.injEq] at h
    rcases h with ⟨rfl, -⟩ | ⟨rfl, -⟩ | ⟨rfl, -⟩ | ⟨rfl, -⟩ | ⟨rfl, -⟩ | ⟨rfl, -⟩ <;>
      exact ⟨_, _, rfl, by decide⟩
  | @number w h =>
    cases w.negative with
    | true => exact ⟨'-', _, rfl, by decide⟩
    | false =>
      have hall := h.whole
      have hmarks : ('"' :: '[' :: '\x7b' :: between).all (!isPlainDigit ·) = true := by decide
      rw [Numeral.magnitudeText]
      rcases h.first with hzero | ⟨d, ds, hcons, -⟩
      · rw [hzero]
        exact ⟨'0', _, rfl, by decide⟩
      · rw [hcons] at hall ⊢
        refine ⟨d, _, rfl, fun hmem => ?_⟩
        have hother := List.all_eq_true.mp hmarks d hmem
        rw [hall d List.mem_cons_self] at hother
        exact Bool.false_ne_true hother

/-- The text of a value that is not nested. -/
theorem readValue?_plain {cs : List Char} (h : PlainText cs v) (hrest : Follows rest) (fuel : ℕ) :
    readValue? (fuel + 1) (cs ++ rest) = some (v, rest) := by
  have hread := h.readPlain?_eq hrest
  obtain ⟨c, ds, rfl, hc⟩ := h.exists_cons
  simp only [List.mem_cons, not_or] at hc
  obtain ⟨hquote, hbracket, hbrace, -⟩ := hc
  rw [← hread, List.cons_append, readValue?]
  simp [hquote, hbracket, hbrace]

theorem opens_itemText (h : v.IsJson) : Opens (itemText v) := by
  have hplain {cs : List Char} {w : Value} (h : PlainText cs w) : Opens cs := by
    obtain ⟨c, ds, hcons, hc⟩ := h.exists_cons
    exact ⟨c, ds, hcons, fun hmem => hc (by simp [hmem])⟩
  cases h with
  | null => exact hplain plainText_null
  | bool b => exact hplain (plainText_bool b)
  | whole n => exact hplain (plainText_whole n)
  | real x => exact hplain (plainText_real x)
  | text s => exact ⟨_, _, toList_writeText s, by decide⟩
  | list h => exact ⟨_, _, toList_write_list _, by decide⟩
  | record hnames h => exact ⟨_, _, toList_write_record _, by decide⟩

/-- The value is read from what is written of it, whatever follows. -/
def Reads (v : Value) : Prop := ∀ fuel rest, Follows rest → (itemText v).length ≤ fuel →
  readValue? fuel (itemText v ++ rest) = some (v, rest)

theorem follows_cons {c : Char} (hc : c = ',' ∨ c = ']' ∨ c = '\x7d') (cs : List Char) : Follows (c :: cs) := by
  intro d hd
  obtain rfl := Option.some.inj hd
  exact hc

/-- The items of a list. -/
theorem readItems?_joined {v : Value} {items : List Value} (hjson : ∀ w ∈ v :: items, w.IsJson)
    (h : ∀ w ∈ v :: items, Reads w) {fuel : ℕ} {acc : List Value} {cs rest : List Char}
    (hfuel : (joined ((v :: items).map itemText)).length < fuel)
    (hcs : skip cs = joined ((v :: items).map itemText) ++ ']' :: rest) :
    readItems? fuel acc cs = some (acc.reverse ++ v :: items, rest) := by
  obtain ⟨fuel, rfl⟩ : ∃ k, fuel = k + 1 := ⟨fuel - 1, by omega⟩
  induction items generalizing v fuel acc cs with
  | nil =>
    rw [List.map_singleton, joined_singleton] at hfuel hcs
    rw [readItems?, hcs, h v List.mem_cons_self fuel _ (follows_cons (by simp) _) (by omega)]
    simp only [skip_cons (c := ']') (by decide)]
    rw [List.reverse_cons]
  | cons w items ih =>
    rw [List.map_cons, List.map_cons, joined_cons_cons, ← List.map_cons] at hfuel hcs
    rw [List.length_append, List.length_cons, List.length_cons] at hfuel
    rw [List.append_assoc, List.cons_append, List.cons_append] at hcs
    have hnext := (((opens_itemText (hjson w (by simp))).joined (items.map itemText)).append
      (']' :: rest)).skip_eq.2
    rw [← List.map_cons] at hnext
    obtain ⟨left, rfl⟩ : ∃ k, fuel = k + 1 := ⟨fuel - 1, by omega⟩
    rw [readItems?, hcs, h v List.mem_cons_self _ _ (follows_cons (by simp) _) (by omega)]
    simp only [skip_cons (c := ',') (by decide)]
    rw [ih (fun u hu => hjson u (List.mem_cons_of_mem v hu)) (fun u hu => h u (List.mem_cons_of_mem v hu))
      hnext left (by omega), List.reverse_cons, List.append_assoc]
    rfl

/-- An entry up to what follows it: its name, a colon and its value. -/
theorem entryText_append (e : String × Value) (rest : List Char) : entryText e ++ rest =
    '"' :: (e.1.toList.flatMap escape ++ '"' :: ':' :: ' ' :: (itemText e.2 ++ rest)) := by
  rw [entryText, toList_writeText]
  simp

theorem opens_entryText (e : String × Value) : Opens (entryText e) :=
  ⟨'"', _, by rw [entryText, toList_writeText]; rfl, by decide⟩

/-- An entry, and what follows it. -/
theorem readEntries?_entry {e : String × Value} (hjson : e.2.IsJson) (h : Reads e.2) {fuel : ℕ}
    (hfuel : (entryText e).length ≤ fuel) {acc : Table Value} {c : Char} {cs rest : List Char}
    (hc : c = ',' ∨ c = '\x7d') (hcs : skip cs = entryText e ++ c :: rest) :
    readEntries? (fuel + 1) acc cs =
      if c = ',' then readEntries? fuel (acc.put e.1 e.2) rest else some (acc.put e.1 e.2, rest) := by
  have hvalue := ((opens_itemText hjson).append (c :: rest)).skip_eq.2
  have hlength : (itemText e.2).length ≤ fuel := by
    rw [entryText, List.length_append, List.length_cons, List.length_cons] at hfuel
    omega
  rw [entryText_append] at hcs
  rw [readEntries?, hcs]
  simp only [readText?_escape, skip_cons (c := ':') (by decide), hvalue]
  rw [h fuel _ (follows_cons (by tauto) _) hlength]
  rcases hc with rfl | rfl
  · simp only [skip_cons (c := ',') (by decide)]
    rw [if_pos trivial]
  · simp only [skip_cons (c := '\x7d') (by decide)]
    rw [if_neg (by decide)]

/-- The entries of a map, whose names are new. -/
theorem readEntries?_joined {e : String × Value} {t : Table Value} (hjson : ∀ d ∈ e :: t, d.2.IsJson)
    (h : ∀ d ∈ e :: t, Reads d.2) {fuel : ℕ} {acc : Table Value} {cs rest : List Char}
    (hnames : ((acc ++ e :: t).map (·.1)).Nodup)
    (hfuel : (joined ((e :: t).map entryText)).length < fuel)
    (hcs : skip cs = joined ((e :: t).map entryText) ++ '\x7d' :: rest) :
    readEntries? fuel acc cs = some (acc ++ e :: t, rest) := by
  obtain ⟨fuel, rfl⟩ : ∃ k, fuel = k + 1 := ⟨fuel - 1, by omega⟩
  have hput {e : String × Value} {t acc : Table Value} (hnames : ((acc ++ e :: t).map (·.1)).Nodup) :
      acc.put e.1 e.2 = acc ++ [e] := by
    refine Table.put_of_notMem (fun hmem => ?_) e.2
    rw [List.map_append, List.map_cons] at hnames
    exact (List.nodup_append.mp hnames).2.2 _ hmem _ List.mem_cons_self rfl
  induction t generalizing e fuel acc cs with
  | nil =>
    rw [List.map_singleton, joined_singleton] at hfuel hcs
    rw [readEntries?_entry (hjson e List.mem_cons_self) (h e List.mem_cons_self) (by omega) (.inr rfl) hcs,
      hput hnames]
    exact if_neg (by decide)
  | cons d t ih =>
    rw [List.map_cons, List.map_cons, joined_cons_cons, ← List.map_cons] at hfuel hcs
    rw [List.length_append, List.length_cons, List.length_cons] at hfuel
    rw [List.append_assoc, List.cons_append, List.cons_append] at hcs
    have hnext := (((opens_entryText d).joined (t.map entryText)).append ('\x7d' :: rest)).skip_eq.2
    rw [← List.map_cons] at hnext
    obtain ⟨left, rfl⟩ : ∃ k, fuel = k + 1 := ⟨fuel - 1, by omega⟩
    rw [readEntries?_entry (hjson e List.mem_cons_self) (h e List.mem_cons_self) (by omega) (.inl rfl) hcs,
      hput hnames, if_pos rfl]
    have happend : acc ++ e :: d :: t = acc ++ [e] ++ d :: t := by simp
    rw [happend] at hnames ⊢
    exact ih (fun u hu => hjson u (List.mem_cons_of_mem e hu)) (fun u hu => h u (List.mem_cons_of_mem e hu))
      hnames hnext left (by omega)

theorem readValue?_quote (fuel : ℕ) (cs : List Char) :
    readValue? (fuel + 1) ('"' :: cs) = (readText? cs).map fun r => (.text r.1, r.2) := by
  rw [readValue?]
  exact if_pos (by decide)

theorem readValue?_bracket {cs : List Char} (h : Opens (skip cs)) (fuel : ℕ) :
    readValue? (fuel + 1) ('[' :: cs) = (readItems? fuel [] (skip cs)).map fun r => (.list r.1, r.2) := by
  obtain ⟨c, ds, hcs, hc⟩ := h
  have hclose : c ≠ ']' := fun heq => hc (by rw [heq]; decide)
  rw [readValue?, hcs]
  simp [hclose]

theorem readValue?_brace {cs : List Char} (h : Opens (skip cs)) (fuel : ℕ) :
    readValue? (fuel + 1) ('\x7b' :: cs) = (readEntries? fuel [] (skip cs)).map fun r => (.record r.1, r.2) := by
  obtain ⟨c, ds, hcs, hc⟩ := h
  have hclose : c ≠ '\x7d' := fun heq => hc (by rw [heq]; decide)
  rw [readValue?, hcs]
  simp [hclose]

/-- A value of JSON is read from what is written of it. -/
theorem reads_of_isJson (h : v.IsJson) : Reads v := by
  have hplain {v : Value} (h : PlainText (itemText v) v) : Reads v := by
    intro fuel rest hrest hfuel
    obtain ⟨c, ds, hcons, -⟩ := h.exists_cons
    rw [hcons, List.length_cons] at hfuel
    obtain ⟨fuel, rfl⟩ : ∃ k, fuel = k + 1 := ⟨fuel - 1, by omega⟩
    exact readValue?_plain h hrest fuel
  induction h with
  | null => exact hplain plainText_null
  | bool b => exact hplain (plainText_bool b)
  | whole n => exact hplain (plainText_whole n)
  | real x => exact hplain (plainText_real x)
  | text s =>
    intro fuel rest hrest hfuel
    have htext : itemText (.text s) = '"' :: (s.toList.flatMap escape ++ ['"']) := toList_writeText s
    rw [htext] at hfuel ⊢
    obtain ⟨fuel, rfl⟩ : ∃ k, fuel = k + 1 := ⟨fuel - 1, by rw [List.length_cons] at hfuel; omega⟩
    rw [List.cons_append, List.append_assoc, readValue?_quote, List.cons_append, List.nil_append,
      readText?_escape]
    rfl
  | @list items hitems ih =>
    intro fuel rest hrest hfuel
    have htext : itemText (.list items) = '[' :: (joined (items.map itemText) ++ [']']) :=
      toList_write_list items
    rw [htext] at hfuel ⊢
    rw [List.length_cons, List.length_append] at hfuel
    obtain ⟨fuel, rfl⟩ : ∃ k, fuel = k + 1 := ⟨fuel - 1, by omega⟩
    rw [List.cons_append, List.append_assoc]
    cases items with
    | nil => rfl
    | cons v items =>
      have hopens := ((opens_itemText (hitems v List.mem_cons_self)).joined (items.map itemText)).append
        ([']'] ++ rest)
      rw [← List.map_cons] at hopens
      rw [readValue?_bracket (by rw [hopens.skip_eq.1]; exact hopens), hopens.skip_eq.1,
        readItems?_joined hitems ih (by rw [List.length_singleton] at hfuel; omega) hopens.skip_eq.1]
      rfl
  | @record t hnames ht ih =>
    intro fuel rest hrest hfuel
    have htext : itemText (.record t) = '\x7b' :: (joined (t.map entryText) ++ ['\x7d']) :=
      toList_write_record t
    rw [htext] at hfuel ⊢
    rw [List.length_cons, List.length_append] at hfuel
    obtain ⟨fuel, rfl⟩ : ∃ k, fuel = k + 1 := ⟨fuel - 1, by omega⟩
    rw [List.cons_append, List.append_assoc]
    cases t with
    | nil => rfl
    | cons e t =>
      have hopens := ((opens_entryText e).joined (t.map entryText)).append (['\x7d'] ++ rest)
      rw [← List.map_cons] at hopens
      rw [readValue?_brace (by rw [hopens.skip_eq.1]; exact hopens), hopens.skip_eq.1,
        readEntries?_joined ht ih (by rw [List.nil_append]; exact hnames)
          (by rw [List.length_singleton] at hfuel; omega) hopens.skip_eq.1]
      rfl

/-- A value of JSON that is written is read as the value. -/
theorem read?_write (h : v.IsJson) : read? (write v) = some v := by
  have hstart : skip (write v).toList = (write v).toList := (opens_itemText h).skip_eq.1
  have hread := reads_of_isJson h (2 * (write v).toList.length + 2) [] follows_nil
    (by rw [itemText]; omega)
  rw [itemText, List.append_nil] at hread
  unfold read?
  simp only [hstart, hread]
  rfl

/-! ### The characters of a written value -/

/-- A character that can be seen, or a space. -/
def Visible (c : Char) : Prop := 32 ≤ c.toNat ∧ c.toNat ≤ 126

instance : DecidablePred Visible := fun _ => inferInstanceAs (Decidable (_ ∧ _))

theorem visible_of_isPlainDigit {c : Char} (h : isPlainDigit c = true) : Visible c := by
  have hrange := isPlainDigit_iff.mp h
  exact ⟨by omega, by omega⟩

theorem visible_hexDigits (width n : ℕ) : ∀ c ∈ hexDigits width n, Visible c := by
  have hdigit : ∀ d < 16, Visible (hexDigit d) := by decide
  induction width generalizing n with
  | zero => simp [hexDigits]
  | succ width ih =>
    intro c hc
    rw [hexDigits, List.mem_append, List.mem_singleton] at hc
    rcases hc with hc | rfl
    · exact ih _ c hc
    · exact hdigit _ (by omega)

theorem visible_unitEscape (n : ℕ) : ∀ c ∈ unitEscape n, Visible c := by
  intro c hc
  rw [unitEscape, List.mem_cons, List.mem_cons] at hc
  rcases hc with rfl | rfl | hc
  · decide
  · decide
  · exact visible_hexDigits 4 n c hc

theorem visible_escape (c : Char) : ∀ d ∈ escape c, Visible d := by
  unfold escape
  simp only [beq_iff_eq, Bool.and_eq_true, decide_eq_true_iff]
  split_ifs with hquote hslash hnewline hreturn htab hback hpage hvisible hplane
  · simp [Visible]
  · simp [Visible]
  · simp [Visible]
  · simp [Visible]
  · simp [Visible]
  · simp [Visible]
  · simp [Visible]
  · intro d hd
    rw [List.mem_singleton.mp hd]
    exact hvisible
  · exact visible_unitEscape _
  · intro d hd
    rcases List.mem_append.mp hd with hd | hd
    · exact visible_unitEscape _ d hd
    · exact visible_unitEscape _ d hd

theorem visible_writeText (s : String) : ∀ c ∈ (writeText s).toList, Visible c := by
  intro c hc
  rw [toList_writeText, List.mem_cons, List.mem_append, List.mem_singleton, List.mem_flatMap] at hc
  rcases hc with rfl | ⟨d, -, hc⟩ | rfl
  · decide
  · exact visible_escape d c hc
  · decide

theorem PlainText.visible {cs : List Char} (h : PlainText cs v) : ∀ c ∈ cs, Visible c := by
  cases h with
  | name word h =>
    have hnames : (names.all fun n => n.1.toList.all fun c => decide (Visible c)) = true := by decide
    intro c hc
    exact of_decide_eq_true (List.all_eq_true.mp (List.all_eq_true.mp hnames _ h) c hc)
  | @number w h =>
    intro c hc
    rw [Numeral.magnitudeText, List.mem_append, List.mem_append, List.mem_append] at hc
    rcases hc with hsign | hwhole | hplaces | hexponent
    · split at hsign
      · rw [List.mem_singleton.mp hsign]
        decide
      · exact absurd hsign (by simp)
    · exact visible_of_isPlainDigit (h.whole c hwhole)
    · unfold Numeral.placesText at hplaces
      split at hplaces
      · exact absurd hplaces (by simp)
      · rcases List.mem_cons.mp hplaces with rfl | hplaces
        · decide
        · exact visible_of_isPlainDigit (h.places c hplaces)
    · have hdigits := h.exponent
      cases hx : w.exponent with
      | none =>
        rw [hx] at hexponent
        exact absurd hexponent (by simp [Numeral.exponentText])
      | some x =>
        rw [hx, Numeral.exponentText, List.mem_cons, List.mem_cons] at hexponent
        rcases hexponent with rfl | rfl | hexponent
        · decide
        · split <;> decide
        · exact visible_of_isPlainDigit ((hdigits x hx).2 c hexponent)

theorem visible_joined {texts : List (List Char)} (h : ∀ cs ∈ texts, ∀ c ∈ cs, Visible c) :
    ∀ c ∈ joined texts, Visible c := by
  induction texts with
  | nil => simp [joined]
  | cons cs texts ih =>
    intro c hc
    cases texts with
    | nil =>
      rw [joined_singleton] at hc
      exact h cs List.mem_cons_self c hc
    | cons ds texts =>
      rw [joined_cons_cons, List.mem_append, List.mem_cons, List.mem_cons] at hc
      rcases hc with hc | rfl | rfl | hc
      · exact h cs List.mem_cons_self c hc
      · decide
      · decide
      · exact ih (fun es hes => h es (List.mem_cons_of_mem cs hes)) c hc

/-- A written value has only visible characters. -/
theorem visible_write (h : v.IsJson) : ∀ c ∈ (write v).toList, Visible c := by
  have haround {a b : Char} {cs : List Char} (ha : Visible a) (hb : Visible b)
      (h : ∀ c ∈ cs, Visible c) : ∀ c ∈ a :: (cs ++ [b]), Visible c := by
    intro c hc
    rw [List.mem_cons, List.mem_append, List.mem_singleton] at hc
    rcases hc with rfl | hc | rfl
    · exact ha
    · exact h c hc
    · exact hb
  induction h with
  | null => exact plainText_null.visible
  | bool b => exact (plainText_bool b).visible
  | whole n => exact (plainText_whole n).visible
  | real x => exact (plainText_real x).visible
  | text s => exact visible_writeText s
  | @list items _ ih =>
    rw [toList_write_list]
    refine haround (by decide) (by decide) (visible_joined ?_)
    intro cs hcs
    obtain ⟨v, hv, rfl⟩ := List.mem_map.mp hcs
    exact ih v hv
  | @record t _ _ ih =>
    rw [toList_write_record]
    refine haround (by decide) (by decide) (visible_joined ?_)
    intro cs hcs
    obtain ⟨e, he, rfl⟩ := List.mem_map.mp hcs
    intro c hc
    rw [entryText, List.mem_append, List.mem_cons, List.mem_cons] at hc
    rcases hc with hc | rfl | rfl | hc
    · exact visible_writeText e.1 c hc
    · decide
    · decide
    · exact ih e he c hc

end Json

end Backtest
