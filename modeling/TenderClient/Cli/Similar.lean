/-!
# Similar words

A misspelt command or flag is answered with the known words that look like it. Two words
look alike when their Jaro similarity exceeds 0.7. The similarity of `a` and `b` counts
the matches `m`, characters equal in both that stand at most `max |a| |b| / 2 - 1` places
apart, each matched at most once and greedily from the left, and the transpositions `t`,
half the matched pairs that come in a different order; it is
`(m / |a| + m / |b| + (m - t) / m) / 3`, computed in double precision in that order, and
`0` when nothing matches.

Candidates are listed from the least to the most similar, ties in their given order.
-/

set_option autoImplicit false

namespace TenderClient.Cli

/-- Marks, for each character of `a`, whether it found a match in `b`, and the characters
of `b` that were matched. -/
def jaroMatches (a : List Char) (b : Array Char) (range : Nat) : List Bool × Array Bool :=
  a.zipIdx.foldl (fun (acc : List Bool × Array Bool) (ci : Char × Nat) =>
    let (c, i) := ci
    let lo := i - range
    let hi := min b.size (i + range + 1)
    match (List.range' lo (hi - lo)).find? (fun j => b.getD j ' ' == c && !acc.2.getD j true) with
    | some j => (acc.1 ++ [true], acc.2.setIfInBounds j true)
    | none => (acc.1 ++ [false], acc.2)) ([], Array.replicate b.size false)

/-- The characters of a word at the marked places. -/
def marked (cs : List Char) (marks : List Bool) : List Char :=
  (cs.zip marks).filterMap fun (c, m) => if m then some c else none

/-- The Jaro similarity of two words. -/
def jaro (a b : List Char) : Float :=
  if a.isEmpty && b.isEmpty then 1.0
  else if a.isEmpty || b.isEmpty then 0.0
  else
    let range := max a.length b.length / 2 - 1
    let (aMarks, bMarks) := jaroMatches a b.toArray range
    let ma := marked a aMarks
    let mb := marked b bMarks.toList
    let m := ma.length
    let t := ((ma.zip mb).filter fun (x, y) => x != y).length / 2
    if m == 0 then 0.0
    else
      (m.toFloat / a.length.toFloat + m.toFloat / b.length.toFloat +
        (m - t).toFloat / m.toFloat) / 3.0

/-- Inserts a scored word after every word scored no higher. -/
def insertByScore (x : Float × String) : List (Float × String) → List (Float × String)
  | [] => [x]
  | y :: ys => if x.1 < y.1 then x :: y :: ys else y :: insertByScore x ys

/-- The candidates similar to a word, from the least to the most similar. -/
def similarWords (word : String) (candidates : List String) : List String :=
  let scored := candidates.filterMap fun c =>
    let s := jaro word.toList c.toList
    if s > 0.7 then some (s, c) else none
  (scored.foldl (fun acc x => insertByScore x acc) []).map (·.2)

/-- The candidate most similar to a word, if any is similar enough. -/
def mostSimilar (word : String) (candidates : List String) : Option String :=
  (similarWords word candidates).getLast?

end TenderClient.Cli
