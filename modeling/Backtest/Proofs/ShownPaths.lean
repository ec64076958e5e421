import Backtest.Path
import Backtest.Proofs.Pieces

/-!
# Paths as texts

A path is read from its own text. A text that gives a path may say it in more than one way, with empty names
and points that mean nothing, but the text of a path says nothing twice, so to read it and to show it again
changes nothing; and what is seen from a directory is as plain as the directory and the path.

* `Path.Proper`, a path as texts give it; `Path.proper_read`, `Path.Proper.join`, paths that are;
* `Path.Proper.read_shown`, such a path is read from its text.
-/

namespace Backtest.Path

open Text

/-- A path as texts give it: no name is empty, is a point or holds a slash. -/
structure Proper (p : Path) : Prop where
  root : p.root ∈ ["", "/", "//"]
  names : ∀ name ∈ p.names, name ≠ "" ∧ name ≠ "." ∧ '/' ∉ name.toList

theorem pieces_eq_piecesBy (cs : List Char) : pieces cs = piecesBy (· == '/') cs := by
  induction cs with
  | nil => rfl
  | cons c cs ih =>
    rewrite [pieces, piecesBy, ih]
    rfl

/-- The pieces between slashes hold none. -/
theorem notMem_of_mem_pieces {cs w : List Char} (h : w ∈ pieces cs) : '/' ∉ w := by
  induction cs generalizing w with
  | nil =>
    rw [List.mem_singleton.mp h]
    simp
  | cons c cs ih =>
    rw [pieces] at h
    split at h
    · rcases List.mem_cons.mp h with rfl | h
      · simp
      · exact ih h
    · rename_i hc
      have hslash : '/' ≠ c := by
        rintro rfl
        exact hc (by decide)
      split at h
      · rw [List.mem_singleton.mp h]
        simpa using hslash
      · rename_i w' ws hws
        rcases List.mem_cons.mp h with rfl | h
        · simp only [List.mem_cons, not_or]
          exact ⟨hslash, ih (by rw [hws]; exact List.mem_cons_self)⟩
        · exact ih (by rw [hws]; exact List.mem_cons_of_mem w' h)

theorem rootOf_mem (cs : List Char) : rootOf cs ∈ ["", "/", "//"] := by
  unfold rootOf
  split <;> simp

/-- What a text gives is a proper path. -/
theorem proper_read (text : String) : (Path.read text).Proper := by
  refine ⟨rootOf_mem _, fun name hname => ?_⟩
  obtain ⟨w, hw, rfl⟩ := List.mem_map.mp hname
  obtain ⟨hpiece, hkept⟩ := List.mem_filter.mp hw
  rw [Bool.and_eq_true, bne_iff_ne, bne_iff_ne] at hkept
  refine ⟨fun hempty => hkept.1 ?_, fun hpoint => hkept.2 ?_, ?_⟩
  · rw [← String.toList_ofList (l := w), hempty]
    rfl
  · rw [← String.toList_ofList (l := w), hpoint]
    rfl
  · rw [String.toList_ofList]
    exact notMem_of_mem_pieces hpiece

theorem Proper.join {base p : Path} (hbase : base.Proper) (hp : p.Proper) : (base.join p).Proper := by
  unfold Path.join
  split
  · exact hp
  · refine ⟨hbase.root, fun name hname => ?_⟩
    rcases List.mem_append.mp hname with hname | hname
    · exact hbase.names name hname
    · exact hp.names name hname

/-- The names of a path between slashes. -/
theorem pieces_intercalate {names : List String} (hne : names ≠ []) (h : ∀ name ∈ names, '/' ∉ name.toList) :
    pieces (['/'].intercalate (names.map String.toList)) = names.map String.toList := by
  have hsingle {name : String} (hname : '/' ∉ name.toList) : piecesBy (· == '/') name.toList = [name.toList] := by
    refine piecesBy_of_forall fun c hc => beq_eq_false_iff_ne.mpr ?_
    rintro rfl
    exact hname hc
  rw [pieces_eq_piecesBy]
  induction names with
  | nil => exact absurd rfl hne
  | cons name names ih =>
    cases names with
    | nil =>
      rw [List.map_singleton, List.intercalate_singleton]
      exact hsingle (h name List.mem_cons_self)
    | cons next names =>
      have hrest := ih (by simp) fun n hn => h n (List.mem_cons_of_mem name hn)
      rw [List.map_cons, List.map_cons, List.intercalate_cons_cons, List.append_assoc, List.singleton_append,
        piecesBy_append_cons (by decide), hsingle (h name List.mem_cons_self), ← List.map_cons, hrest]
      rfl

/-- The names that pieces of a text give. -/
def namesOf (ws : List (List Char)) : List String :=
  (ws.filter fun w => w != [] && w != ['.']).map String.ofList

theorem namesOf_intercalate {p : Path} (hp : p.Proper) :
    namesOf (pieces (['/'].intercalate (p.names.map String.toList))) = p.names := by
  by_cases hne : p.names = []
  · rw [hne]
    rfl
  · have hall : (p.names.map String.toList).filter (fun w => w != [] && w != ['.']) =
        p.names.map String.toList := by
      refine List.filter_eq_self.mpr fun w hw => ?_
      obtain ⟨name, hname, rfl⟩ := List.mem_map.mp hw
      obtain ⟨hempty, hpoint, -⟩ := hp.names name hname
      rw [Bool.and_eq_true, bne_iff_ne, bne_iff_ne]
      refine ⟨fun hnil => hempty (String.toList_inj.mp hnil), fun hdot => hpoint (String.toList_inj.mp hdot)⟩
    rw [pieces_intercalate hne fun name hname => (hp.names name hname).2.2, namesOf, hall, List.map_map]
    exact (List.map_congr_left fun name _ => String.ofList_toList).trans (List.map_id _)

/-- The text of the names does not start with a slash. -/
theorem intercalate_ne_cons {p : Path} (hp : p.Proper) (rest : List Char) :
    ['/'].intercalate (p.names.map String.toList) ≠ '/' :: rest := by
  intro hslash
  cases hnames : p.names with
  | nil =>
    rw [hnames] at hslash
    exact absurd hslash (by simp)
  | cons name names =>
    obtain ⟨hempty, -, hno⟩ := hp.names name (by rw [hnames]; exact List.mem_cons_self)
    obtain ⟨c, cs, hcs⟩ : ∃ c cs, name.toList = c :: cs := by
      refine List.exists_cons_of_ne_nil fun hnil => hempty (String.toList_inj.mp hnil)
    have hfirst : ∃ tail, ['/'].intercalate (p.names.map String.toList) = c :: tail := by
      rw [hnames, List.map_cons, hcs]
      cases names with
      | nil => exact ⟨cs, List.intercalate_singleton⟩
      | cons next names =>
        rw [List.map_cons, List.intercalate_cons_cons]
        exact ⟨_, rfl⟩
    obtain ⟨tail, htail⟩ := hfirst
    rw [hnames] at htail
    rw [hnames, htail] at hslash
    rw [hcs, (List.cons.inj hslash).1] at hno
    exact hno List.mem_cons_self

/-- A path is read from its own text. -/
theorem Proper.read_shown {p : Path} (hp : p.Proper) : Path.read p.shown = p := by
  obtain ⟨text, htext⟩ : ∃ text, text = ['/'].intercalate (p.names.map String.toList) := ⟨_, rfl⟩
  have hnames := namesOf_intercalate hp
  have hfirst := intercalate_ne_cons hp
  rw [← htext] at hnames hfirst
  have hread (root : String) : (root ++ String.intercalate "/" p.names).toList = root.toList ++ text := by
    rw [String.toList_append, String.toList_intercalate, htext]
    rfl
  -- the slashes in front give no names, and tell the root since no other slash follows
  have hroots (root : String) (hroot : root ∈ ["", "/", "//"]) :
      rootOf (root.toList ++ text) = root ∧ namesOf (pieces (root.toList ++ text)) = p.names := by
    simp only [List.mem_cons, List.not_mem_nil, or_false] at hroot
    have hempty (ws : List (List Char)) : namesOf ([] :: ws) = namesOf ws := rfl
    rcases hroot with rfl | rfl | rfl
    · refine ⟨?_, hnames⟩
      exact rootOf.eq_4 text (fun _ => hfirst _) (fun _ => hfirst _) hfirst
    · refine ⟨?_, ?_⟩
      · show rootOf ('/' :: text) = "/"
        exact rootOf.eq_3 text (fun _ => hfirst _) hfirst
      · show namesOf (pieces ('/' :: text)) = _
        rw [pieces, if_pos (by decide), hempty]
        exact hnames
    · refine ⟨?_, ?_⟩
      · show rootOf ('/' :: '/' :: text) = "//"
        exact rootOf.eq_2 text hfirst
      · show namesOf (pieces ('/' :: '/' :: text)) = _
        rw [pieces, if_pos (by decide), pieces, if_pos (by decide), hempty, hempty]
        exact hnames
  obtain ⟨root, names⟩ := p
  rw [shown]
  split
  · rename_i hpoint
    rw [Bool.and_eq_true, List.isEmpty_iff, String.isEmpty_iff] at hpoint
    obtain ⟨rfl, rfl⟩ := hpoint
    rfl
  · obtain ⟨hroot, hkept⟩ := hroots root hp.root
    have hshown := hread root
    show (⟨rootOf _, namesOf (pieces _)⟩ : Path) = _
    rw [hshown, hroot, hkept]

end Backtest.Path
