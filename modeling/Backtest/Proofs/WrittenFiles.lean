import Backtest.Proofs.Accepted
import Backtest.FileTree

/-!
# Files that are written

A file holds what was added to it. Writing to it moves nothing: the path still comes down to the file, and
what was a directory still is one. A directory that was made is there, and to make it again changes nothing.

* `FileTree.Leads`, where names lead; `FileTree.withFile`, the tree with the bytes of a file;
  `FileTree.Leads.withFile`, where names lead in it;
* `FileTree.Holds`, what the file at a path holds; `FileTree.Holds.append`, `FileTree.Holds.read`;
* `FileTree.IsDirectoryAt`, a path that leads to a directory; `FileTree.isDirectoryAt_of_makeDirectory`,
  `FileTree.makeDirectory_of_isDirectoryAt`.
-/

namespace Backtest.FileTree

variable {t : FileTree} {p q : Path} {bytes : ByteArray} {names : List String} {here : Path} {whole : String}

/-- The tree with the bytes of a file. -/
def withFile (t : FileTree) (q : Path) (bytes : ByteArray) : FileTree :=
  { t with files := put bytes q t.files }

theorem fileAt_withFile (t : FileTree) (p q : Path) (bytes : ByteArray) :
    (t.withFile q bytes).fileAt p = if p = q then some bytes else t.fileAt p := by
  have hother (files : List (Path × ByteArray)) (hne : p ≠ q) :
      (files.filter (·.1 != q)).find? (·.1 == p) = files.find? (·.1 == p) := by
    rw [List.find?_filter]
    congr 1
    funext f
    by_cases hf : f.1 = p
    · simp [hf, hne]
    · simp [hf]
  show ((t.files.filter (·.1 != q) ++ [(q, bytes)]).find? (·.1 == p)).map (·.2) = _
  rw [List.find?_append]
  by_cases hp : p = q
  · subst hp
    have hnone : (t.files.filter (·.1 != p)).find? (·.1 == p) = none := by
      refine List.find?_eq_none.mpr fun f hf => ?_
      have hne := (List.mem_filter.mp hf).2
      simpa using hne
    rw [hnone, if_pos rfl]
    simp
  · rw [hother t.files hp, if_neg hp]
    have hlast : [(q, bytes)].find? (·.1 == p) = none := by simp [Ne.symm hp]
    rw [hlast, Option.or_none]
    rfl

/-- A directory stays one. -/
theorem isDirectory_withFile (q : Path) (bytes : ByteArray) (h : t.isDirectory p = true) :
    (t.withFile q bytes).isDirectory p = true := by
  unfold isDirectory at h ⊢
  simp only [Bool.or_eq_true, List.any_eq_true] at h ⊢
  rcases h with h | ⟨f, hf, habove⟩
  · exact .inl h
  · right
    by_cases hq : f.1 = q
    · exact ⟨(q, bytes), List.mem_append_right _ (List.mem_singleton.mpr rfl), hq ▸ habove⟩
    · exact ⟨f, List.mem_append_left _ (List.mem_filter.mpr ⟨hf, by simpa using hq⟩), habove⟩

/-! ### Where names lead -/

/-- The places to which names lead from a directory: through directories, and by the last name to a file, to
a directory or to nothing. -/
inductive Leads (t : FileTree) : Path → List String → Place → Prop
  | here (p : Path) : Leads t p [] (.directory p)
  | file {p : Path} {name : String} {bytes : ByteArray} (hname : name.utf8ByteSize ≤ longestName)
      (hfile : t.fileAt (p.enter name) = some bytes) : Leads t p [name] (.file (p.enter name) bytes)
  | vacant {p : Path} {name : String} (hname : name.utf8ByteSize ≤ longestName)
      (hfile : t.fileAt (p.enter name) = none) (hdirectory : t.isDirectory (p.enter name) = false) :
      Leads t p [name] (.vacant (p.enter name))
  | through {p : Path} {name : String} {names : List String} {place : Place}
      (hname : name.utf8ByteSize ≤ longestName) (hfile : t.fileAt (p.enter name) = none)
      (hdirectory : t.isDirectory (p.enter name) = true) (h : Leads t (p.enter name) names place) :
      Leads t p (name :: names) place

theorem locateFrom_eq_ok {place : Place} :
    t.locateFrom whole p names = .ok place ↔ t.Leads p names place := by
  constructor
  · intro h
    induction names generalizing p with
    | nil =>
      obtain rfl := Except.ok.inj h
      exact .here p
    | cons name names ih =>
      rw [locateFrom] at h
      split at h
      · simp at h
      · rename_i hname
        split at h
        · rename_i bytes hfile
          split at h
          · rename_i hlast
            obtain rfl := List.isEmpty_iff.mp hlast
            obtain rfl := Except.ok.inj h
            exact .file (by omega) hfile
          · simp at h
        · rename_i hfile
          split at h
          · rename_i hdirectory
            exact .through (by omega) hfile hdirectory (ih h)
          · rename_i hdirectory
            split at h
            · rename_i hlast
              obtain rfl := List.isEmpty_iff.mp hlast
              obtain rfl := Except.ok.inj h
              exact .vacant (by omega) hfile (by simpa using hdirectory)
            · simp at h
  · intro h
    induction h with
    | here p => rfl
    | file hname hfile =>
      rw [locateFrom]
      simp [Nat.not_lt.mpr hname, hfile]
    | vacant hname hfile hdirectory =>
      rw [locateFrom]
      simp [Nat.not_lt.mpr hname, hfile, hdirectory]
    | through hname hfile hdirectory h ih =>
      rw [locateFrom]
      simp [Nat.not_lt.mpr hname, hfile, hdirectory, ih]

theorem Leads.fileAt {p : Path} (h : t.Leads p names (.file q bytes)) : t.fileAt q = some bytes := by
  generalize hplace : Place.file q bytes = place at h
  induction h with
  | here p => cases hplace
  | file hname hfile =>
    cases hplace
    exact hfile
  | vacant hname hfile hdirectory => cases hplace
  | through hname hfile hdirectory h ih => exact ih hplace

theorem Leads.not_isDirectory {p : Path} (h : t.Leads p names (.vacant q)) :
    t.fileAt q = none ∧ t.isDirectory q = false := by
  generalize hplace : Place.vacant q = place at h
  induction h with
  | here p => cases hplace
  | file hname hfile => cases hplace
  | vacant hname hfile hdirectory =>
    cases hplace
    exact ⟨hfile, hdirectory⟩
  | through hname hfile hdirectory h ih => exact ih hplace

/-- The place that a path leads to once a file is written there. -/
def Place.written (q : Path) (bytes : ByteArray) : Place → Place
  | .directory p => .directory p
  | .file .. | .vacant _ => .file q bytes

/-- A file can stand at the path: there is one, or there is no directory. -/
def CanHold (t : FileTree) (q : Path) : Prop := t.fileAt q ≠ none ∨ t.isDirectory q = false

/-- To write a file moves nothing: names lead to the same directories, and those that lead to the file still
do. -/
theorem Leads.withFile {place : Place} (hq : t.CanHold q) (h : t.Leads p names place)
    (hplace : place = .vacant q ∨ (∃ old, place = .file q old) ∨ ∃ d, place = .directory d) (bytes : ByteArray) :
    (t.withFile q bytes).Leads p names (place.written q bytes) := by
  induction h with
  | here p => exact .here p
  | @file p name old hname hfile =>
    have hpath : p.enter name = q := by
      rcases hplace with hplace | ⟨old, hplace⟩ | ⟨d, hplace⟩ <;> cases hplace
      rfl
    rw [hpath] at hfile ⊢
    have hnew : (t.withFile q bytes).fileAt (p.enter name) = some bytes := by
      rw [fileAt_withFile, if_pos hpath]
    have hleads := Leads.file hname hnew
    rw [hpath] at hleads
    exact hleads
  | @vacant p name hname hfile hdirectory =>
    have hpath : p.enter name = q := by
      rcases hplace with hplace | ⟨old, hplace⟩ | ⟨d, hplace⟩ <;> cases hplace
      rfl
    have hnew : (t.withFile q bytes).fileAt (p.enter name) = some bytes := by
      rw [fileAt_withFile, if_pos hpath]
    have hleads := Leads.file hname hnew
    rw [hpath] at hleads
    exact hleads
  | @through p name names place hname hfile hdirectory h ih =>
    have hne : p.enter name ≠ q := by
      rintro rfl
      rcases hq with hq | hq
      · exact hq hfile
      · rw [hdirectory] at hq
        exact Bool.noConfusion hq
    refine .through hname ?_ (isDirectory_withFile q bytes hdirectory) (ih hplace)
    rw [fileAt_withFile, if_neg hne, hfile]

/-- The text of a path is no fault in itself. -/
def Sayable (p : Path) : Prop := p.shown.toList.contains '\x00' = false ∧ p.shown.utf8ByteSize ≤ longestPath

theorem locate_eq_ok {place : Place} :
    t.locate p = .ok place ↔ Sayable p ∧ t.Leads { p with names := [] } p.names place := by
  rw [locate, ← @locateFrom_eq_ok _ _ _ p.shown]
  unfold Sayable
  by_cases hzero : p.shown.toList.contains '\x00' = true
  · simp only [hzero, if_true]
    simp
  · rw [Bool.not_eq_true] at hzero
    by_cases hlong : longestPath < p.shown.utf8ByteSize
    · simp only [hzero, hlong, Bool.false_eq_true, if_false, if_true]
      simp [Nat.not_le.mpr hlong]
    · simp only [hzero, hlong, Bool.false_eq_true, if_false]
      cases t.locateFrom p.shown { p with names := [] } p.names with
      | error f => simp [Except.mapError]
      | ok found => simp [Except.mapError, Nat.not_lt.mp hlong]

/-- The path leads to a directory. -/
def IsDirectoryAt (t : FileTree) (p : Path) : Prop := ∃ d, t.locate p = .ok (.directory d)

/-! ### What a file holds -/

/-- The file at the path holds the bytes; while there are none it may be missing, in a directory that is
there. What is written to the null device is gone, so that is no such file. -/
def Holds (t : FileTree) (p : Path) (bytes : ByteArray) : Prop :=
  ∃ q, q ≠ nullDevice ∧
    (t.locate p = .ok (.file q bytes) ∨ t.locate p = .ok (.vacant q) ∧ bytes = ⟨#[]⟩)

/-- What is added to a file it holds, and directories stay. -/
theorem Holds.append (h : t.Holds p bytes) (more : ByteArray) :
    ∃ t', t.append p more = .ok t' ∧ t'.Holds p (bytes ++ more) ∧
      ∀ d, t.IsDirectoryAt d → t'.IsDirectoryAt d := by
  obtain ⟨q, hq, hplace⟩ := h
  have hchange : t.append p more = .ok (t.withFile q (bytes ++ more)) := by
    have hne : ¬ (q == nullDevice) = true := by simpa using hq
    rcases hplace with hplace | ⟨hplace, rfl⟩
    · exact bind_eq_ok.mpr ⟨_, hplace, congrArg Except.ok (if_neg hne)⟩
    · exact bind_eq_ok.mpr ⟨_, hplace, congrArg Except.ok (if_neg hne)⟩
  have hcan : t.CanHold q := by
    rcases hplace with hplace | ⟨hplace, -⟩
    · exact .inl (by rw [(locate_eq_ok.mp hplace).2.fileAt]; simp)
    · exact .inr (locate_eq_ok.mp hplace).2.not_isDirectory.2
  refine ⟨_, hchange, ⟨q, hq, .inl ?_⟩, ?_⟩
  · rcases hplace with hplace | ⟨hplace, -⟩
    · obtain ⟨hsayable, hleads⟩ := locate_eq_ok.mp hplace
      exact locate_eq_ok.mpr ⟨hsayable, hleads.withFile hcan (.inr (.inl ⟨bytes, rfl⟩)) _⟩
    · obtain ⟨hsayable, hleads⟩ := locate_eq_ok.mp hplace
      exact locate_eq_ok.mpr ⟨hsayable, hleads.withFile hcan (.inl rfl) _⟩
  · rintro d ⟨here, hd⟩
    obtain ⟨hsayable, hleads⟩ := locate_eq_ok.mp hd
    exact ⟨here, locate_eq_ok.mpr ⟨hsayable, hleads.withFile hcan (.inr (.inr ⟨here, rfl⟩)) _⟩⟩

/-- What a file holds is read; a file that is missing holds nothing. -/
theorem Holds.read (h : t.Holds p bytes) :
    t.find? p = .ok (some (.file bytes)) ∧ t.read p = .ok bytes ∨
      t.find? p = .ok none ∧ bytes = ⟨#[]⟩ := by
  obtain ⟨q, -, hplace | ⟨hplace, hempty⟩⟩ := h
  · left
    refine ⟨?_, bind_eq_ok.mpr ⟨_, hplace, rfl⟩⟩
    rw [find?, hplace]
  · right
    refine ⟨?_, hempty⟩
    rw [find?, hplace]

/-! ### Directories that are made -/

/-- The tree with a directory. -/
def withDirectory (t : FileTree) (q : Path) : FileTree := { t with made := q :: t.made }

theorem Leads.withDirectory {p : Path} (h : t.Leads p names (.vacant q)) :
    (t.withDirectory q).Leads p names (.directory q) := by
  have hmore {p : Path} (hp : t.isDirectory p = true) : (t.withDirectory q).isDirectory p = true := by
    unfold isDirectory at hp ⊢
    simp only [FileTree.withDirectory, List.contains_cons, Bool.or_eq_true] at hp ⊢
    tauto
  have hmade : (t.withDirectory q).isDirectory q = true := by
    unfold isDirectory
    simp [FileTree.withDirectory]
  generalize hplace : Place.vacant q = place at h
  induction h with
  | here p => cases hplace
  | file hname hfile => cases hplace
  | vacant hname hfile hdirectory =>
    cases hplace
    exact .through hname hfile hmade (.here _)
  | through hname hfile hdirectory h ih => exact .through hname hfile (hmore hdirectory) (ih hplace)

theorem isDirectoryAt_of_makeLast {t' : FileTree} (h : t.makeLast p = .ok t') : t'.IsDirectoryAt p := by
  obtain ⟨place, hplace, hmade⟩ := bind_eq_ok.mp h
  cases place with
  | file q bytes => simp at hmade
  | directory d =>
    obtain rfl := Except.ok.inj hmade
    exact ⟨d, hplace⟩
  | vacant q =>
    obtain rfl := Except.ok.inj hmade
    obtain ⟨hsayable, hleads⟩ := locate_eq_ok.mp hplace
    exact ⟨q, locate_eq_ok.mpr ⟨hsayable, hleads.withDirectory⟩⟩

/-- A directory that was made is there. -/
theorem isDirectoryAt_of_makeDirectory {t' : FileTree} (h : t.makeDirectory p = .ok t') :
    t'.IsDirectoryAt p := by
  unfold makeDirectory at h
  generalize p.names.length = depth at h
  cases depth with
  | zero => exact isDirectoryAt_of_makeLast h
  | succ depth =>
    rw [makeWithin] at h
    split at h
    · obtain ⟨held, -, hlast⟩ := bind_eq_ok.mp h
      exact isDirectoryAt_of_makeLast hlast
    · exact isDirectoryAt_of_makeLast h

/-- To make a directory that is there changes nothing. -/
theorem makeDirectory_of_isDirectoryAt (h : t.IsDirectoryAt p) : t.makeDirectory p = .ok t := by
  obtain ⟨d, hd⟩ := h
  have hlast : t.makeLast p = .ok t := by
    rw [makeLast, hd]
    rfl
  unfold makeDirectory
  cases p.names.length with
  | zero => exact hlast
  | succ depth => rw [makeWithin, hlast]

end Backtest.FileTree
