import Backtest.FileTree
import Backtest.Tick

/-!
# Tick sources

A source gives ticks in order, from any cursor that a reader has seen before: ticks in memory, whose
cursors are indexes, or the lines of a file, whose cursors are byte offsets. Blank lines of a file are
passed over; a line that is no tick stops the reading there. A cursor below zero counts the ticks in
memory from their end, and all of them follow; in a file there is none.

* `TickSource`, `TickSource.ofFile`; `Record`, a tick with the cursors around it;
* `Reader`, what is left to read; `Reader.next`, the next record;
* `Reader.scan`, the records one after the other, up to one at which the visitor stops;
* `Reader.records`, all records that can be read, and the fault that ends them;
* `TickSource.readAhead?`, the beginning of a file as far as it is read for its first line;
  `TickSource.isJpyQuoted`, whether the first ask of a file has three decimal places or five.
-/

namespace Backtest

open Text

/-- Where ticks come from. -/
inductive TickSource
  /-- Ticks in memory. -/
  | memory (ticks : List (Tick Float))
  /-- The bytes of a file. -/
  | file (path : String) (bytes : List UInt8)
  /-- A directory in the place of a file. -/
  | directory (path : String)

/-- A tick with the cursor before it and the cursor after it. -/
structure Record where
  tick : Tick Float
  position : Int
  next : Int

/-- What is left to read of a source. -/
inductive Reader
  | ticks (index : Int) (rest : List (Tick Float))
  | lines (path : String) (offset : Nat) (rest : List UInt8)
  | failing (fault : Fault)

namespace Reader

/-- The first line of bytes, with its newline. -/
def firstLine : List UInt8 → List UInt8
  | [] => []
  | b :: bs => if b == 10 then [b] else b :: firstLine bs

/-- The bytes after the first line. -/
def afterLine : List UInt8 → List UInt8
  | [] => []
  | b :: bs => if b == 10 then bs else afterLine bs

theorem firstLine_append_afterLine (bs : List UInt8) : firstLine bs ++ afterLine bs = bs := by
  induction bs with
  | nil => rfl
  | cons b bs ih =>
    unfold firstLine afterLine
    split
    · rfl
    · rw [List.cons_append, ih]

theorem length_afterLine_lt {bs : List UInt8} (h : bs ≠ []) : (afterLine bs).length < bs.length := by
  induction bs with
  | nil => exact absurd rfl h
  | cons b bs ih =>
    unfold afterLine
    split
    · simp
    · by_cases hb : bs = []
      · simp [hb, afterLine]
      · have := ih hb
        simp only [List.length_cons]
        omega

/-- A byte that may stand on a blank line. -/
def isBlankByte (b : UInt8) : Bool := b == 32 || (9 ≤ b && b ≤ 13)

/-- The text of UTF-8 bytes. -/
def decode? (bs : List UInt8) : Option String := String.fromUTF8? ⟨bs.toArray⟩

/-- The tick on a line of bytes. -/
def readLine? (bs : List UInt8) : Option (Tick Float) :=
  match decode? bs with
  | none => none
  | some line => (Tick.read line).toOption

/-- The next record of the lines from an offset on, and the offset and the bytes after it. -/
def nextLine (path : String) (offset : Nat) (rest : List UInt8) :
    Option (Except Fault (Record × Nat × List UInt8)) :=
  if _h : rest = [] then none
  else
    let line := firstLine rest
    let next := offset + line.length
    if line.all isBlankByte then nextLine path next (afterLine rest)
    else match readLine? line with
      | none => some (.error (.stream (.malformed offset path line)))
      | some tick => some (.ok ({ tick, position := offset, next }, next, afterLine rest))
termination_by rest.length
decreasing_by exact length_afterLine_lt _h

/-- The next record and what is left after it; nothing at the end. -/
def next : Reader → Option (Except Fault (Record × Reader))
  | .ticks _ [] => none
  | .ticks index (t :: rest) =>
    some (.ok ({ tick := t, position := index, next := index + 1 }, .ticks (index + 1) rest))
  | .lines path offset rest =>
    match nextLine path offset rest with
    | none => none
    | some (.error f) => some (.error f)
    | some (.ok (r, offset, rest)) => some (.ok (r, .lines path offset rest))
  | .failing f => some (.error f)

/-- A bound on the number of records that are left. -/
def left : Reader → Nat
  | .ticks _ rest => rest.length
  | .lines _ _ rest => rest.length
  | .failing _ => 0

theorem length_lt_of_nextLine {path : String} {offset stop : Nat} {rest : List UInt8} {r : Record}
    {after : List UInt8} (h : nextLine path offset rest = some (.ok (r, stop, after))) :
    after.length < rest.length := by
  fun_induction nextLine path offset rest with
  | case1 => simp at h
  | case2 offset rest hne line next hb ih => exact Nat.lt_trans (ih h) (length_afterLine_lt hne)
  | case3 => simp at h
  | case4 offset rest hne line next hb tick ht =>
    simp only [Option.some.injEq, Except.ok.injEq, Prod.mk.injEq] at h
    exact h.2.2 ▸ length_afterLine_lt hne

theorem left_lt_of_next {s s' : Reader} {r : Record} (h : s.next = some (.ok (r, s'))) :
    s'.left < s.left := by
  match s with
  | .ticks _ [] => simp [next] at h
  | .ticks index (t :: rest) =>
    simp only [next, Option.some.injEq, Except.ok.injEq, Prod.mk.injEq] at h
    simp [← h.2, left]
  | .lines path offset rest =>
    simp only [next] at h
    split at h
    · simp at h
    · simp at h
    · rename_i heq
      simp only [Option.some.injEq, Except.ok.injEq, Prod.mk.injEq] at h
      simpa [← h.2, left] using length_lt_of_nextLine heq
  | .failing _ => simp [next] at h

end Reader

/-- How a scan comes to an end. -/
inductive ScanEnd (ρ : Type)
  /-- The visitor stopped. -/
  | stopped (result : ρ)
  /-- There are no more records. -/
  | ended
  /-- The next record cannot be read. -/
  | failed (fault : Fault)

namespace Reader

/-- Visit the records one after the other. The visitor changes a state and may stop. -/
def scan {σ ρ : Type} (visit : σ → Record → σ × Option ρ) (s : Reader) (state : σ) :
    σ × ScanEnd ρ :=
  match _h : s.next with
  | none => (state, .ended)
  | some (.error f) => (state, .failed f)
  | some (.ok (r, rest)) =>
    match visit state r with
    | (state, some result) => (state, .stopped result)
    | (state, none) => scan visit rest state
termination_by s.left
decreasing_by exact left_lt_of_next _h

/-- All records that can be read, and the fault at which they end, if there is one. -/
def records (s : Reader) : List Record × Option Fault :=
  match _h : s.next with
  | none => ([], none)
  | some (.error f) => ([], some f)
  | some (.ok (r, rest)) =>
    let (rs, fault) := records rest
    (r :: rs, fault)
termination_by s.left
decreasing_by exact left_lt_of_next _h

end Reader

namespace TickSource

/-- The ticks from an index on; from the end of the list, and all of it after that, if the index is
below zero. -/
def ticksFrom (ticks : List (Tick Float)) (index : Int) : Reader :=
  if 0 ≤ index then .ticks index (ticks.drop index.toNat)
  else if ticks.length < index.natAbs then .failing .indexOutOfRange
  else .ticks index (ticks.drop (ticks.length - index.natAbs) ++ ticks)

/-- The lines of a file from an offset on. -/
def linesFrom (path : String) (bytes : List UInt8) (offset : Int) : Reader :=
  if offset < -Int.pow 2 63 || Int.pow 2 63 ≤ offset then .failing .cursorTooLarge
  else if offset < 0 then .failing (.file .invalidCursor)
  else .lines path offset.toNat (bytes.drop offset.toNat)

/-- What there is to read from a cursor on. -/
def readFrom (s : TickSource) (position : Int) : Reader :=
  match s with
  | .memory ticks => ticksFrom ticks position
  | .file path bytes => linesFrom path bytes position
  | .directory path => .failing (.file (.isDirectory path))

/-- The source of the file at a path. -/
def ofFile (files : FileTree) (path : Path) : Except Fault TickSource := do
  match ← files.find? path with
  | none => .error (.config (.tickFileNotFound path.shown))
  | some (.file bytes) => .ok (.file path.shown bytes.toList)
  | some .directory => .ok (.directory path.shown)

/-- Whether a byte can follow the first byte of a character of two bytes or more. -/
def secondFits (first second : UInt8) : Bool :=
  (if first == 0xE0 then 0xA0 else if first == 0xF0 then 0x90 else 0x80) ≤ second &&
    second ≤ (if first == 0xED then 0x9F else if first == 0xF4 then 0x8F else 0xBF)

/-- Whether bytes begin a character but do not end it. -/
def isBegun : List UInt8 → Bool
  | [b] => 0xC2 ≤ b && b ≤ 0xF4
  | [b, c] => 0xE0 ≤ b && b ≤ 0xF4 && secondFits b c
  | [b, c, d] => 0xF0 ≤ b && b ≤ 0xF4 && secondFits b c && 0x80 ≤ d && d ≤ 0xBF
  | _ => false

/-- The text of the bytes but for the last ones, which begin a character, if there are so many. -/
def decodeBut? (bs : List UInt8) (left : Nat) : Option String :=
  let n := bs.length - left
  if left == 0 || isBegun (bs.drop n) then Reader.decode? (bs.take n) else none

/-- The text of bytes that may end in the midst of a character. -/
def decodeBegun? (bs : List UInt8) : Option String := [0, 1, 2, 3].findSome? (decodeBut? bs)

/-- The first line of a text; it ends at a newline or at a carriage return. -/
def firstTextLine (text : String) : String :=
  String.ofList (text.toList.takeWhile fun c => c != '\n' && c != '\r')

/-- Whether a text that may go on shows where its first line ends. A carriage return at its end does
not, as a newline may follow. -/
def showsLine (text : String) : Bool :=
  let cs := text.toList
  (if cs.getLast? == some '\r' then cs.dropLast else cs).any fun c => c == '\n' || c == '\r'

/-- The number of bytes that are read of a text at a time. -/
def pieceLength : Nat := 8192

/-- The text of a file as far as it is read for its first line, when so many bytes were read before:
piece by piece until the end of the line shows. -/
def readAhead? (bytes : List UInt8) (before : Nat) : Option String :=
  let read := before + pieceLength
  match decodeBegun? (bytes.take read) with
  | none => none
  | some text =>
    if showsLine text then some text
    else if bytes.length ≤ read then Reader.decode? bytes
    else readAhead? bytes read
termination_by bytes.length - before
decreasing_by
  simp only [pieceLength] at *
  omega

/-- The decimal places of a field: the characters behind its last point. -/
def decimalPlaces (field : String) : Nat :=
  let cs := field.toList
  if cs.contains '.' then (cs.reverse.takeWhile (· != '.')).length else 0

/-- Whether a last field with so many decimal places is quoted in yen. -/
def jpyByPlaces (field : String) : Except ConfigFault Bool :=
  let places := decimalPlaces field
  if places == 3 then .ok true
  else if places == 5 then .ok false
  else .error (.decimalPlaces places field)

/-- Whether prices are quoted in yen: the last field of the first line has three decimal places then,
and else five. -/
def isJpyQuoted : TickSource → Except Fault Bool
  | .memory _ => .ok false
  | .directory path => .error (.file (.isDirectory path))
  | .file path bytes =>
    match readAhead? bytes 0 with
    | none => .error (.config (.tickFileNotUtf8 path))
    | some text =>
      let first := strip (firstTextLine text)
      if first.isEmpty then .error (.config (.tickFileEmpty path))
      else (jpyByPlaces ((splitOn ',' first).getLastD "")).mapError .config

end TickSource

end Backtest
