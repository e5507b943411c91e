import FormulaMap.Code.Grammar.Language

/-!
# Productions

The rules in normal form.  A repetition becomes a phrase of its own, which is a pair of itself or
its body; a choice becomes several productions; a phrase that is written out where it is
mentioned is replaced by each of its productions.  No production but one of the whole source
text is empty.
-/

namespace FormulaMap
namespace Code
namespace Grammar

/-- A symbol of a production with its marks: the rank and the side that hold up to it, the kind
its node is shown as, and the part it is. -/
structure Step where
  symbol : Symbol
  rank : Option Int
  side : Option Side
  kind : Option Kind
  part : Option Field
  deriving DecidableEq

/-- The marks that hold where a rule is read. -/
structure Marks where
  rank : Option Int
  side : Option Side
  kind : Option Kind
  part : Option Field

namespace Marks

/-- No marks. -/
def none : Marks := ⟨.none, .none, .none, .none⟩

/-- A symbol under the marks. -/
def step (m : Marks) (s : Symbol) : Step := ⟨s, m.rank, m.side, m.kind, m.part⟩

end Marks

/-- A row of symbols with the weight of its reading. -/
structure Row where
  steps : List Step
  weight : Int
  deriving DecidableEq

/-- Of two weights the one further from zero. -/
def heavier (v w : Int) : Int := if v.natAbs < w.natAbs then w else v

namespace Row

/-- One row behind another. -/
def append (r s : Row) : Row := ⟨r.steps ++ s.steps, heavier r.weight s.weight⟩

/-- The row with its last step changed. -/
def mapLast (f : Step → Step) (r : Row) : Row :=
  match r.steps.getLast? with
  | none => r
  | some last => { r with steps := r.steps.dropLast ++ [f last] }

end Row

/-- The rows a rule stands for, under the marks around it.  A rank holds between the symbols it
encloses; behind the last of them the rank around it holds again, unless the row ends there. -/
def rows (marks : Marks) (atEnd : Bool) : Rule → List Row
  | .blank => [⟨[], 0⟩]
  | .symbol s => [⟨[marks.step s], 0⟩]
  | .sequence first second =>
    (rows marks false first).flatMap fun r => (rows marks atEnd second).map r.append
  | .choice first second => rows marks atEnd first ++ rows marks atEnd second
  | .repeated body => rows marks atEnd body
  | .part role body => rows { marks with part := some role } atEnd body
  | .renamed kind body => rows { marks with kind := some kind } atEnd body
  | .ranked rank side body =>
    let inner := { marks with rank := some rank, side := side.or marks.side }
    let restore (s : Step) : Step :=
      { s with rank := marks.rank, side := if side.isSome then marks.side else s.side }
    if atEnd then rows inner atEnd body else (rows inner atEnd body).map (Row.mapLast restore)
  | .weighted weight body =>
    (rows marks atEnd body).map fun r => { r with weight := heavier weight r.weight }

/-- The number of phrases with a rule of their own name. -/
def phraseCount : Nat := Phrase.all.length

/-- Gives every repetition a number, equal ones the same, and puts the phrase of that number in
its place. -/
def numberRepeats : Rule → List Rule → Rule × List Rule
  | .blank, known => (.blank, known)
  | .symbol s, known => (.symbol s, known)
  | .sequence first second, known =>
    let (first, known) := numberRepeats first known
    let (second, known) := numberRepeats second known
    (.sequence first second, known)
  | .choice first second, known =>
    let (first, known) := numberRepeats first known
    let (second, known) := numberRepeats second known
    (.choice first second, known)
  | .repeated body, known =>
    let (body, known) := numberRepeats body known
    match known.idxOf? body with
    | some i => (.symbol (.phrase (phraseCount + i)), known)
    | none => (.symbol (.phrase (phraseCount + known.length)), known ++ [body])
  | .part role body, known =>
    let (body, known) := numberRepeats body known
    (.part role body, known)
  | .renamed kind body, known =>
    let (body, known) := numberRepeats body known
    (.renamed kind body, known)
  | .ranked rank side body, known =>
    let (body, known) := numberRepeats body known
    (.ranked rank side body, known)
  | .weighted weight body, known =>
    let (body, known) := numberRepeats body known
    (.weighted weight body, known)

/-- The rules of the phrases without repetitions, and the bodies of the repetitions. -/
def numberedRules : List Rule × List Rule :=
  Phrase.all.foldl (fun (done, known) p =>
    let (r, known) := numberRepeats (rule p) known
    (done ++ [r], known)) ([], [])

/-- The rule of a repetition: it is two of its kind, or its body. -/
def repetitionRule (number : Nat) (body : Rule) : Rule :=
  .choice (.sequence (.symbol (.phrase number)) (.symbol (.phrase number))) body

/-- The rules of all phrases, those of the repetitions behind the others. -/
def allRules : List Rule :=
  numberedRules.1 ++
    numberedRules.2.mapIdx fun i body => repetitionRule (phraseCount + i) body

/-- The rows of every phrase. -/
def allRows : Array (List Row) :=
  (allRules.map fun r => (rows Marks.none true r).eraseDups).toArray

/-- The phrases that are written out wherever they are mentioned. -/
def inlinePhrases : List Nat := (Phrase.all.filter Phrase.isInline).map Phrase.index

/-- Whether a symbol is written out. -/
def isInline : Symbol → Bool
  | .token _ => false
  | .phrase n => inlinePhrases.contains n

/-- The row of a phrase in the place of a step: the marks of the step hold for it, and its rank
for the last symbol if that has none. -/
def Row.atStep (s : Step) (r : Row) : Row :=
  let marked := r.steps.map fun t => { t with kind := s.kind.or t.kind, part := s.part.or t.part }
  Row.mapLast (fun t => { t with rank := t.rank.or s.rank, side := t.side.or s.side })
    { r with steps := marked }

/-- The rows of a phrase. -/
def rowsOf (n : Nat) : List Row := allRows.getD n []

/-- Writes out the phrases of the steps that are to be. -/
def writeOut : List Step → List Row
  | [] => [⟨[], 0⟩]
  | s :: steps =>
    match s.symbol with
    | .token _ => (writeOut steps).map (Row.append ⟨[s], 0⟩)
    | .phrase n =>
      if isInline (.phrase n) then
        (rowsOf n).flatMap fun r => (writeOut steps).map (Row.append (r.atStep s))
      else (writeOut steps).map (Row.append ⟨[s], 0⟩)

/-- A production: a phrase, by its number, and the row of symbols it may be. -/
structure Production where
  number : Nat
  head : Nat
  steps : List Step
  weight : Int

/-- The rows of each phrase with all that is to be written out, none for the phrases that are
written out themselves. -/
def finalRows : List (Nat × Row) :=
  (List.range allRules.length).flatMap fun n =>
    if isInline (.phrase n) then []
    else
      let rows := (rowsOf n).flatMap fun r =>
        (writeOut r.steps).map fun s => { s with weight := heavier r.weight s.weight }
      rows.eraseDups.map fun r => (n, r)

/-- All productions, in the order of their phrases. -/
def productions : Array Production :=
  (finalRows.mapIdx fun i (n, r) => (⟨i, n, r.steps, r.weight⟩ : Production)).toArray

/-- The number of phrases, repetitions included. -/
def headCount : Nat := allRules.length

end Grammar
end Code
end FormulaMap
