import Backtest.Proofs.FileLines
import Mathlib.Data.List.TakeWhile

/-!
# The beginning of a file

Whether a file quotes in yen is read from its text, of which no more is read than it takes to see where
the first line ends. The last bytes that are read may be the beginning of a character. So what is read is
a text whose bytes the file begins with, and a file that is a text is read ahead without a fault.

* `decode?_iff`, the bytes of a text; `newline_of_mem_encode`, where a newline stands in them;
* `takeWhile_eq_of_encode`, texts that begin the same bytes; `isBegun_take`, `take_encode`, a text that is
  cut anywhere;
* `TickSource.exists_of_readAhead?`, what is read ahead; `TickSource.isSome_readAhead?`, a file of text;
  `TickSource.firstTextLine_readAhead?`, the first line in it.
-/

namespace Backtest

open Reader

/-! ### Characters and their bytes -/

theorem decode?_iff {bs : List UInt8} {s : String} :
    decode? bs = some s ↔ s.toList.flatMap String.utf8EncodeChar = bs := by
  have hbytes : s.toByteArray = s.toList.utf8Encode := by
    rw [← String.toByteArray_ofList, String.ofList_toList]
  rw [decode?_eq_some, hbytes, List.utf8Encode, ByteArray.ext_iff, List.data_toByteArray]
  constructor
  · intro h
    exact congrArg Array.toList h
  · rintro rfl
    rfl

theorem toNat_piece (n : ℕ) {k d : ℕ} (hk : 0 < k) (h : k + d ≤ 256) :
    (UInt8.ofNat (n % k + d)).toNat = n % k + d := by
  have hn := Nat.mod_lt n hk
  exact UInt8.toNat_ofNat_of_lt' (by show n % k + d < 256; omega)

theorem le_toNat_piece (n : ℕ) {k d : ℕ} (hk : 0 < k) (hd : 128 ≤ d) (h : k + d ≤ 256) :
    128 ≤ (UInt8.ofNat (n % k + d)).toNat := by
  rw [toNat_piece n hk h]
  omega

/-- The bytes of a character beyond ASCII are beyond ASCII. -/
theorem le_of_mem_encode {c : Char} {b : UInt8} (hc : 128 ≤ c.toNat)
    (h : b ∈ String.utf8EncodeChar c) : 128 ≤ b.toNat := by
  have hone : ¬ c.val.toNat ≤ 127 := by
    show ¬ c.toNat ≤ 127
    omega
  simp only [String.utf8EncodeChar, if_neg hone] at h
  split at h
  · simp only [List.mem_cons, List.not_mem_nil, or_false] at h
    rcases h with rfl | rfl <;> exact le_toNat_piece _ (by decide) (by decide) (by decide)
  · split at h
    · simp only [List.mem_cons, List.not_mem_nil, or_false] at h
      rcases h with rfl | rfl | rfl <;>
        exact le_toNat_piece _ (by decide) (by decide) (by decide)
    · simp only [List.mem_cons, List.not_mem_nil, or_false] at h
      rcases h with rfl | rfl | rfl | rfl <;>
        exact le_toNat_piece _ (by decide) (by decide) (by decide)

/-- A newline is one byte, which is no part of another character. -/
theorem newline_of_mem_encode {c : Char} (h : 10 ∈ String.utf8EncodeChar c) : c = '\n' := by
  by_cases hc : 128 ≤ c.toNat
  · exact absurd (le_of_mem_encode hc h) (by decide)
  · have hsingle : String.utf8EncodeChar c = [UInt8.ofNat c.toNat] :=
      if_pos (by show c.toNat ≤ 127; omega)
    rw [hsingle, List.mem_singleton] at h
    have hcode := congrArg UInt8.toNat h
    rw [UInt8.toNat_ofNat_of_lt' (by show c.toNat < 256; omega)] at hcode
    exact Char.toNat_inj.mp hcode.symm

/-! ### Texts that begin the same bytes -/

theorem eq_of_encode_append {c d : Char} {bs cs : List UInt8}
    (h : String.utf8EncodeChar c ++ bs = String.utf8EncodeChar d ++ cs) : c = d ∧ bs = cs := by
  have hc := @ByteArray.utf8DecodeChar?_utf8EncodeChar_append bs.toByteArray c
  have hd := @ByteArray.utf8DecodeChar?_utf8EncodeChar_append cs.toByteArray d
  rw [← List.toByteArray_append, h, List.toByteArray_append] at hc
  obtain rfl := Option.some.inj (hc.symm.trans hd)
  exact ⟨rfl, List.append_cancel_left h⟩

/-- Of two texts that begin the same bytes, one begins the other. -/
theorem begins_or_begins {cs ds : List Char} {bs es : List UInt8}
    (h : cs.flatMap String.utf8EncodeChar ++ bs = ds.flatMap String.utf8EncodeChar ++ es) :
    cs <+: ds ∨ ds <+: cs := by
  induction cs generalizing ds with
  | nil => exact .inl List.nil_prefix
  | cons c cs ih =>
    cases ds with
    | nil => exact .inr List.nil_prefix
    | cons d ds =>
      simp only [List.flatMap_cons, List.append_assoc] at h
      obtain ⟨rfl, hrest⟩ := eq_of_encode_append h
      exact (ih hrest).imp (List.prefix_cons_inj c).mpr (List.prefix_cons_inj c).mpr

theorem takeWhile_of_begins {p : Char → Bool} {cs ds : List Char} (h : cs <+: ds)
    (hstop : ∃ c ∈ cs, p c = false) : ds.takeWhile p = cs.takeWhile p := by
  obtain ⟨more, rfl⟩ := h
  obtain ⟨c, hc, hp⟩ := hstop
  rw [List.takeWhile_append, if_neg]
  intro hlen
  have hall := List.takeWhile_eq_self_iff.mp ((List.takeWhile_prefix p).eq_of_length hlen)
  rw [hall c hc] at hp
  exact Bool.false_ne_true hp.symm

theorem takeWhile_eq_of_begins {p : Char → Bool} {cs ds : List Char} {bs es : List UInt8}
    (h : cs.flatMap String.utf8EncodeChar ++ bs = ds.flatMap String.utf8EncodeChar ++ es)
    (hbegins : cs <+: ds) (hstop : (∃ c ∈ cs, p c = false) ∨ bs = []) :
    cs.takeWhile p = ds.takeWhile p := by
  rcases hstop with hstop | rfl
  · exact (takeWhile_of_begins hbegins hstop).symm
  · -- nothing is left behind the shorter text, so it is not shorter
    obtain ⟨more, rfl⟩ := hbegins
    rw [List.flatMap_append, List.append_assoc, List.append_right_inj] at h
    cases more with
    | nil => rw [List.append_nil]
    | cons c more => simp [String.utf8EncodeChar_ne_nil] at h

/-- Texts that begin the same bytes have the same beginning up to a character at which both stop. -/
theorem takeWhile_eq_of_encode {p : Char → Bool} {cs ds : List Char} {bs es : List UInt8}
    (h : cs.flatMap String.utf8EncodeChar ++ bs = ds.flatMap String.utf8EncodeChar ++ es)
    (hcs : (∃ c ∈ cs, p c = false) ∨ bs = []) (hds : (∃ d ∈ ds, p d = false) ∨ es = []) :
    cs.takeWhile p = ds.takeWhile p := by
  rcases begins_or_begins h with hbegins | hbegins
  · exact takeWhile_eq_of_begins h hbegins hcs
  · exact (takeWhile_eq_of_begins h.symm hbegins hds).symm

/-! ### Texts that are cut -/

namespace TickSource

theorem secondFits_iff {b c : UInt8} : secondFits b c = true ↔
    (0x80 ≤ c.toNat ∧ c.toNat ≤ 0xBF) ∧ (b.toNat = 0xE0 → 0xA0 ≤ c.toNat) ∧
      (b.toNat = 0xF0 → 0x90 ≤ c.toNat) ∧ (b.toNat = 0xED → c.toNat ≤ 0x9F) ∧
      (b.toNat = 0xF4 → c.toNat ≤ 0x8F) := by
  have heq (n : UInt8) : (b == n) = decide (b.toNat = n.toNat) := by
    rw [Bool.eq_iff_iff, beq_iff_eq, decide_eq_true_iff, UInt8.toNat_inj]
  simp only [secondFits, Bool.and_eq_true, decide_eq_true_iff, UInt8.le_iff_toNat_le, heq,
    apply_ite UInt8.toNat]
  show (if b.toNat = 0xE0 then 0xA0 else if b.toNat = 0xF0 then 0x90 else 0x80) ≤ c.toNat ∧
    c.toNat ≤ (if b.toNat = 0xED then 0x9F else if b.toNat = 0xF4 then 0x8F else 0xBF) ↔ _
  repeat' split
  all_goals omega

theorem isBegun_one {b : UInt8} : isBegun [b] = true ↔ 0xC2 ≤ b.toNat ∧ b.toNat ≤ 0xF4 := by
  simp only [isBegun, Bool.and_eq_true, decide_eq_true_iff, UInt8.le_iff_toNat_le]
  rfl

theorem isBegun_two {b c : UInt8} : isBegun [b, c] = true ↔
    (0xE0 ≤ b.toNat ∧ b.toNat ≤ 0xF4) ∧ secondFits b c = true := by
  simp only [isBegun, Bool.and_eq_true, decide_eq_true_iff, UInt8.le_iff_toNat_le]
  rfl

theorem isBegun_three {b c d : UInt8} : isBegun [b, c, d] = true ↔
    ((0xF0 ≤ b.toNat ∧ b.toNat ≤ 0xF4) ∧ secondFits b c = true) ∧ 0x80 ≤ d.toNat ∧ d.toNat ≤ 0xBF := by
  simp only [isBegun, Bool.and_eq_true, decide_eq_true_iff, UInt8.le_iff_toNat_le, and_assoc]
  rfl

/-- The bytes of a character that is cut short are seen to begin one. -/
theorem isBegun_take {c : Char} {k : ℕ} (hk : 0 < k) (hlt : k < (String.utf8EncodeChar c).length) :
    isBegun ((String.utf8EncodeChar c).take k) = true := by
  have hvalid : c.val.toNat < 0xD800 ∨ (0xDFFF < c.val.toNat ∧ c.val.toNat < 0x110000) := c.valid
  unfold String.utf8EncodeChar at hlt ⊢
  generalize c.val.toNat = v at *
  by_cases h1 : v ≤ 127
  · simp only [if_pos h1, List.length_singleton] at hlt
    omega
  by_cases h2 : v ≤ 2047
  · simp only [if_neg h1, if_pos h2, List.length_cons, List.length_nil] at hlt ⊢
    obtain rfl : k = 1 := by omega
    rw [List.take_succ_cons, List.take_zero, isBegun_one, toNat_piece _ (by decide) (by decide)]
    omega
  by_cases h3 : v ≤ 65535
  · simp only [if_neg h1, if_neg h2, if_pos h3, List.length_cons, List.length_nil] at hlt ⊢
    have hlead := toNat_piece (v / 4096) (k := 16) (d := 224) (by decide) (by decide)
    have hsecond := toNat_piece (v / 64) (k := 64) (d := 128) (by decide) (by decide)
    obtain rfl | rfl : k = 1 ∨ k = 2 := by omega
    · rw [List.take_succ_cons, List.take_zero, isBegun_one]
      omega
    · rw [List.take_succ_cons, List.take_succ_cons, List.take_zero, isBegun_two, secondFits_iff]
      omega
  · simp only [if_neg h1, if_neg h2, if_neg h3, List.length_cons, List.length_nil] at hlt ⊢
    have hlead := toNat_piece (v / 262144) (k := 8) (d := 240) (by decide) (by decide)
    have hsecond := toNat_piece (v / 4096) (k := 64) (d := 128) (by decide) (by decide)
    have hthird := toNat_piece (v / 64) (k := 64) (d := 128) (by decide) (by decide)
    obtain rfl | rfl | rfl : k = 1 ∨ k = 2 ∨ k = 3 := by omega
    · rw [List.take_succ_cons, List.take_zero, isBegun_one]
      omega
    · rw [List.take_succ_cons, List.take_succ_cons, List.take_zero, isBegun_two, secondFits_iff]
      omega
    · rw [List.take_succ_cons, List.take_succ_cons, List.take_succ_cons, List.take_zero, isBegun_three,
        secondFits_iff]
      omega

end TickSource

theorem length_encode_le (c : Char) : (String.utf8EncodeChar c).length ≤ 4 := by
  rw [String.length_utf8EncodeChar]
  exact Char.utf8Size_le_four c

/-- A text that is cut anywhere is a shorter text and the beginning of a character, if anything. -/
theorem take_encode (cs : List Char) (n : ℕ) : ∃ (ds : List Char) (rest : List UInt8),
    (cs.flatMap String.utf8EncodeChar).take n = ds.flatMap String.utf8EncodeChar ++ rest ∧
      rest.length < 4 ∧ (rest = [] ∨ TickSource.isBegun rest = true) := by
  induction cs generalizing n with
  | nil => exact ⟨[], [], by simp, by decide, .inl rfl⟩
  | cons c cs ih =>
    have hle := length_encode_le c
    rw [List.flatMap_cons, List.take_append]
    by_cases hn : (String.utf8EncodeChar c).length ≤ n
    · obtain ⟨ds, rest, htake, hrest⟩ := ih (n - (String.utf8EncodeChar c).length)
      refine ⟨c :: ds, rest, ?_, hrest⟩
      rw [List.take_of_length_le hn, htake, List.flatMap_cons, List.append_assoc]
    · refine ⟨[], (String.utf8EncodeChar c).take n, ?_, ?_, ?_⟩
      · rw [Nat.sub_eq_zero_of_le (by omega), List.take_zero, List.append_nil]
        rfl
      · rw [List.length_take]
        omega
      · rcases Nat.eq_zero_or_pos n with rfl | hpos
        · exact .inl rfl
        · exact .inr (TickSource.isBegun_take hpos (by omega))

namespace TickSource

/-! ### What is read ahead -/

/-- What stands in a file of text can be read up to every place. -/
theorem isSome_decodeBegun?_take {bs : List UInt8} (h : (decode? bs).isSome) (n : ℕ) :
    (decodeBegun? (bs.take n)).isSome := by
  obtain ⟨s, hs⟩ := Option.isSome_iff_exists.mp h
  obtain ⟨ds, rest, htake, hlt, hrest⟩ := take_encode s.toList n
  rw [decode?_iff.mp hs] at htake
  have hbut : decodeBut? (bs.take n) rest.length = some (String.ofList ds) := by
    have hlen : (bs.take n).length - rest.length = (ds.flatMap String.utf8EncodeChar).length := by
      rw [htake, List.length_append, Nat.add_sub_cancel]
    have hends : (rest.length == 0 || isBegun rest) = true := by
      rcases hrest with rfl | hbegun
      · rfl
      · rw [hbegun, Bool.or_true]
    rw [decodeBut?]
    simp only [hlen]
    rw [htake, List.drop_left, List.take_left, if_pos hends, decode?_iff, String.toList_ofList]
  rw [decodeBegun?, List.isSome_findSome?, List.any_eq_true]
  refine ⟨rest.length, ?_, by rw [hbut]; rfl⟩
  simp only [List.mem_cons, List.not_mem_nil, or_false]
  omega

/-- A file of text is read ahead without a fault. -/
theorem isSome_readAhead? {bs : List UInt8} (h : (decode? bs).isSome) (before : ℕ) :
    (readAhead? bs before).isSome := by
  fun_induction readAhead? bs before with
  | case1 before read hnone =>
    have hsome := isSome_decodeBegun?_take h read
    rw [hnone] at hsome
    exact absurd hsome (by decide)
  | case2 => rfl
  | case3 => exact h
  | case4 _ _ _ _ _ _ ih => exact ih

/-- A short file is read as a whole. -/
theorem readAhead?_of_short {bs : List UInt8} {s : String} (h : decode? bs = some s)
    (hshort : bs.length ≤ pieceLength) : readAhead? bs 0 = some s := by
  have hbut : decodeBut? bs 0 = some s := by
    simp [decodeBut?, h]
  have hall : decodeBegun? (bs.take (0 + pieceLength)) = some s := by
    rw [Nat.zero_add, List.take_of_length_le hshort, decodeBegun?, List.findSome?_cons_of_isSome]
    · exact hbut
    · rw [hbut]
      rfl
  unfold readAhead?
  simp only [hall]
  rw [Nat.zero_add, if_pos hshort, h, ite_self]

theorem exists_of_decodeBegun? {bs : List UInt8} {s : String} (h : decodeBegun? bs = some s) :
    ∃ rest, bs = s.toList.flatMap String.utf8EncodeChar ++ rest := by
  obtain ⟨left, -, hleft⟩ := List.exists_of_findSome?_eq_some h
  rw [decodeBut?] at hleft
  simp only [Option.ite_none_right_eq_some] at hleft
  refine ⟨bs.drop (bs.length - left), ?_⟩
  rw [decode?_iff.mp hleft.2, List.take_append_drop]

/-- What is read ahead is a beginning of the file, and all of it unless a line ends in it. -/
theorem exists_of_readAhead? {bs : List UInt8} {before : ℕ} {s : String}
    (h : readAhead? bs before = some s) :
    ∃ rest, bs = s.toList.flatMap String.utf8EncodeChar ++ rest ∧
      ((∃ c ∈ s.toList, c = '\n' ∨ c = '\r') ∨ rest = []) := by
  fun_induction readAhead? bs before with
  | case1 => simp at h
  | case2 before read text htext hshows =>
    obtain rfl := Option.some.inj h
    obtain ⟨rest, hrest⟩ := exists_of_decodeBegun? htext
    refine ⟨rest ++ bs.drop read, ?_, .inl ?_⟩
    · rw [← List.append_assoc, ← hrest, List.take_append_drop]
    · simp only [showsLine, List.any_eq_true, Bool.or_eq_true, beq_iff_eq] at hshows
      obtain ⟨c, hc, hends⟩ := hshows
      refine ⟨c, ?_, hends⟩
      split at hc
      · exact List.dropLast_subset _ hc
      · exact hc
  | case3 => exact ⟨[], by rw [decode?_iff.mp h, List.append_nil], .inr rfl⟩
  | case4 _ _ _ _ _ _ ih => exact ih h

/-- The first line that is read ahead is the beginning of the first line of the bytes. -/
theorem firstTextLine_readAhead? {bs : List UInt8} {content text : String}
    (hread : readAhead? bs 0 = some content) (hline : decode? (firstLine bs) = some text) :
    firstTextLine content = firstTextLine text := by
  obtain ⟨rest, hbytes, hends⟩ := exists_of_readAhead? hread
  have htext : text.toList.flatMap String.utf8EncodeChar = firstLine bs := decode?_iff.mp hline
  have hsplit : content.toList.flatMap String.utf8EncodeChar ++ rest =
      text.toList.flatMap String.utf8EncodeChar ++ afterLine bs := by
    rw [← hbytes, htext, firstLine_append_afterLine]
  have hnewline : '\n' ∈ text.toList ∨ afterLine bs = [] := by
    by_cases hbs : bs = []
    · exact .inr (by rw [hbs]; rfl)
    · refine (isLine_firstLine hbs).ends.imp_left fun hlast => ?_
      have hmem := List.mem_of_getLast? hlast
      rw [← htext, List.mem_flatMap] at hmem
      obtain ⟨c, hc, hten⟩ := hmem
      exact newline_of_mem_encode hten ▸ hc
  rw [firstTextLine, firstTextLine, takeWhile_eq_of_encode hsplit]
  · refine hends.imp_left ?_
    rintro ⟨c, hc, rfl | rfl⟩
    · exact ⟨_, hc, rfl⟩
    · exact ⟨_, hc, rfl⟩
  · exact hnewline.imp_left fun hmem => ⟨_, hmem, rfl⟩

end TickSource

end Backtest
