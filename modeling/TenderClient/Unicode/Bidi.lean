import TenderClient.Unicode.Runs
/-!
# Bidirectional classes

The bidirectional class of every code point, as the rule for labels of domain names needs
it: left-to-right and right-to-left letters, the numbers of either kind and the separators
and marks that may stand among them.
-/

set_option autoImplicit false

namespace TenderClient.Unicode

/-- A bidirectional class. -/
inductive BidiClass where
  | leftToRight
  | rightToLeft
  | arabicLetter
  | europeanNumber
  | europeanSeparator
  | europeanTerminator
  | arabicNumber
  | commonSeparator
  | nonspacingMark
  | boundaryNeutral
  | paragraphSeparator
  | segmentSeparator
  | whitespace
  | otherNeutral
  /-- The explicit embeddings, overrides and isolates. -/
  | explicit
deriving DecidableEq, Repr

/-- The classes as the table numbers them. -/
def BidiClass.ofIndex : Nat → BidiClass
  | 0 => .leftToRight
  | 1 => .rightToLeft
  | 2 => .arabicLetter
  | 3 => .europeanNumber
  | 4 => .europeanSeparator
  | 5 => .europeanTerminator
  | 6 => .arabicNumber
  | 7 => .commonSeparator
  | 8 => .nonspacingMark
  | 9 => .boundaryNeutral
  | 10 => .paragraphSeparator
  | 11 => .segmentSeparator
  | 12 => .whitespace
  | 13 => .otherNeutral
  | _ => .explicit

/-- The bidirectional classes, as runs. -/
def bidiRuns : String :=
  String.intercalate " " [
    "0/9 9/b 1/a 1/b 1/c 1/a 1/9 e/a 3/b 1/c 1/d 2/5 3/d 5/4 1/7 1/4 1/7 2/3 a/7 1/d 6/0 1a/d 6/0",
    "1a/d 4/9 6/a 1/9 1a/7 1/d 1/5 4/d 4/0 1/d 2/9 1/d 2/5 2/3 2/d 1/0 1/d 3/3 1/0 1/d 5/0 17/d 1/0",
    "1f/d 1/0 1c1/d 2/0 7/d e/0 2/d e/0 5/d 9/0 1/d 11/8 70/0 4/d 2/0 8/d 1/0 5/d 2/0 1/d 1/0 6e/d",
    "1/0 8c/8 7/0 100/d 1/0 2/d 2/5 1/0 1/8 2d/1 1/8 1/1 1/8 2/1 1/8 2/1 1/8 1/0 8/1 1b/0 4/1 6/0 b/6",
    "6/d 2/2 1/5 2/2 1/7 1/2 1/d 2/8 b/2 30/8 15/6 a/5 1/6 2/2 3/8 1/2 65/8 7/6 1/d 1/8 6/2 2/8 2/d",
    "1/8 4/2 2/3 a/2 14/0 1/2 2/8 1/2 1e/8 1b/0 2/2 59/8 b/2 1/0 e/1 2b/8 9/1 2/d 4/1 1/0 2/8 1/1",
    "18/8 4/1 1/8 9/1 1/8 3/1 1/8 5/0 2/1 f/0 1/1 19/8 3/0 2/1 1/0 1/2 b/0 5/2 1f/0 1/6 2/0 6/8 8/2",
    "2a/8 18/6 1/8 20/0 37/8 1/0 1/8 1/0 4/8 8/0 4/8 1/0 3/8 7/0 a/8 2/0 1d/8 1/0 3a/8 1/0 4/8 4/0",
    "8/8 1/0 14/8 2/0 e/5 2/0 7/5 1/0 2/8 1/0 2/8 2/0 39/8 1/0 4/8 2/0 4/8 2/0 2/8 3/0 3/8 1/0 1e/8",
    "2/0 3/8 1/0 b/8 2/0 39/8 1/0 4/8 5/0 1/8 2/0 4/8 1/0 14/8 2/0 d/5 1/0 8/8 6/0 1/8 1/0 3a/8 1/0",
    "2/8 1/0 1/8 4/0 8/8 1/0 7/8 2/0 b/8 2/0 1e/8 1/0 3d/8 1/0 c/8 1/0 25/d 6/5 1/d 1/0 5/8 1/0 3/8",
    "1/0 37/8 1/0 1/8 3/0 5/8 3/0 1/8 4/0 7/8 2/0 b/8 2/0 14/d 7/0 2/8 1/0 3a/8 1/0 f/8 2/0 14/8 2/0",
    "1c/8 2/0 39/8 2/0 4/8 4/0 8/8 1/0 14/8 2/0 1d/8 1/0 48/8 1/0 7/8 3/0 1/8 1/0 5a/8 1/0 2/8 7/0",
    "4/5 1/0 7/8 8/0 62/8 1/0 2/8 9/0 b/8 6/0 4a/8 2/0 1b/8 1/0 1/8 1/0 1/8 1/d 4/0 33/8 e/0 1/8 5/0",
    "1/8 2/0 5/8 b/0 1/8 24/0 9/8 1/0 66/8 4/0 1/8 6/0 1/8 2/0 2/8 2/0 19/8 2/0 4/8 3/0 10/8 4/0 d/8",
    "1/0 2/8 2/0 6/8 1/0 f/8 1/0 2bf/8 3/0 30/d a/0 66/d 1/0 27f/c 1/0 1a/d 2/0 75/8 3/0 1d/8 2/0",
    "1e/8 2/0 1e/8 2/0 40/8 2/0 1/8 7/0 8/8 1/0 2/8 b/0 7/5 1/0 1/8 1/0 12/d a/0 6/d b/8 3/9 1/8 1/0",
    "75/8 2/0 22/8 1/0 76/8 3/0 4/8 2/0 9/8 1/0 6/8 3/0 4/d 1/0 3/d 2/0 98/d 22/0 17/8 2/0 2/8 1/0",
    "3a/8 1/0 1/8 7/0 1/8 1/0 1/8 1/0 2/8 8/0 6/8 a/0 2/8 1/0 30/8 1f/0 31/8 4/0 30/8 1/0 1/8 5/0 1/8",
    "1/0 5/8 1/0 28/8 9/0 c/8 2/0 20/8 4/0 2/8 2/0 1/8 3/0 38/8 1/0 1/8 2/0 3/8 1/0 1/8 3/0 3a/8 8/0",
    "2/8 2/0 98/8 3/0 1/8 d/0 1/8 7/0 4/8 1/0 6/8 1/0 3/8 2/0 c6/8 40/0 1bd/d 1/0 1/d 3/0 b/d 3/0 d/d",
    "3/0 d/d 3/0 d/d 2/0 1/c b/9 3/0 1/1 1/d 18/c 1/a 1/e 1/10 1/12 1/f 1/11 1/7 1/5 5/d f/7 1/d 1a/c",
    "1/9 5/0 1/13 1/14 1/15 1/16 1/9 6/3 1/0 3/3 6/4 2/d 3/0 1/3 a/4 2/d 3/0 11/5 21/0 f/8 21/0 f/d",
    "2/0 1/d 4/0 1/d 2/0 a/d 1/0 1/d 3/0 5/d 6/0 1/d 1/0 1/d 1/0 1/d 1/0 4/5 1/0 b/d 2/0 4/d 5/0 5/d",
    "4/0 2/d 10/0 29/d 3/0 4/d 82/4 1/5 1/d 122/0 45/d 1a/0 1/d 91/0 19/d b/0 15/d 28/3 14/0 4e/d",
    "1c2/0 1/d 153/0 100/d 274/0 2/d 20/0 1/d 69/0 e5/d 6/0 4/8 3/0 7/d 7/0 7f/8 1/0 60/8 20/d 5e/0",
    "22/d 1a/0 1/d 59/0 c/d d6/0 1a/d c/0 4/c 1/d 4/0 3/d 19/0 9/8 4/0 2/d 1/0 5/d 2/0 5/d 3/0 59/8",
    "2/d 2/0 3/d 1/0 5a/d 1/0 c4/d 24/0 39/d 2/0 31/d 10/0 1c/d 3/0 32/d f/0 c/d 4/0 a7/d 4/0 63/d",
    "2/0 1f/d 1/0 19c0/d 40/0 5690/d 37/0 146/d 3/0 5f/8 4/d 1/8 a/d 2/0 1e/8 2/0 50/8 2/0 e/d 22/0",
    "66/d 1/0 79/8 1/0 3/8 1/0 4/8 1/0 19/8 2/0 1/d 4/8 1/0 b/5 2/0 3a/d 4/0 4c/8 2/0 1a/8 12/0 d/8",
    "1/0 26/8 8/0 19/8 b/0 2e/8 3/0 30/8 1/0 2/8 4/0 2/8 2/0 27/8 1/0 43/8 6/0 2/8 2/0 2/8 2/0 c/8",
    "1/0 8/8 1/0 2f/8 1/0 33/8 1/0 1/8 3/0 2/8 2/0 5/8 2/0 1/8 1/0 2a/8 2/0 8/8 1/0 73/d 2/0 79/8 1/0",
    "2/8 1/0 4/8 1/0 4f2f/1 1/8 1/1 a/4 1/1 d/0 1/1 5/0 1/1 1/0 1/1 2/0 1/1 2/0 1/1 a/2 73/0 10/2",
    "16b/d 12/2 40/0 2/2 36/0 7/d 1/0 20/2 d/d 3/8 10/d a/0 6/8 10/d 20/7 1/d 1/7 1/0 1/d 1/7 1/d 9/5",
    "1/d 2/4 2/d 3/0 1/d 1/5 2/d 1/0 4/2 5/0 1/2 87/0 2/9 1/0 1/d 2/5 3/d 5/4 1/7 1/4 1/7 2/3 a/7 1/d",
    "6/0 1a/d 6/0 1a/d b/0 7a/5 2/d 3/5 2/0 1/d 7/0 a/d 5/0 103/d 1/0 3e/d 4d/0 3/d d/0 3/d 1/0 5c/8",
    "1/0 e2/8 1/3 1b/0 7a/8 5/0 485/1 6/0 2/1 1/0 1/1 2c/0 1/1 2/0 3/1 1/0 2/1 17/0 1/1 48/0 8/1 9/0",
    "30/1 13/0 1/1 2/0 5/1 21/0 3/d 1/1 1a/0 5/1 1/0 40/1 38/0 4/1 14/0 2/1 2f/8 3/0 1/8 2/0 5/8 4/1",
    "4/0 1/1 3/0 1/1 1d/0 2/8 3/0 4/8 1/1 9/0 7/1 9/0 7/1 40/0 20/1 25/8 2/0 4/1 c/0 9/1 36/0 3/d 7/1",
    "16/0 2/1 1b/0 5/1 1a/0 7/1 4/0 c/1 7/0 50/1 49/0 37/1 33/0 d/1 33/0 7/1 6/2 24/8 4/0 8/6 a/0",
    "126/6 1f/0 1/1 2a/0 1/8 2/1 1/0 2/1 2/0 4e/1 28/0 8/2 16/8 b/2 9/0 16/1 12/8 4/1 4/0 26/1 1c/0",
    "14/1 17/0 a/8 1/0 36/8 f/0 b/d 14/0 a/8 1/0 2/8 2/0 a/8 3/0 31/8 4/0 2/8 2/0 7/8 1/0 3d/8 3/0",
    "24/8 5/0 1/8 8/0 3e/8 1/0 c/8 2/0 34/8 9/0 a/8 4/0 2/8 1/0 5f/8 3/0 2/8 1/0 1/8 2/0 6/8 1/0 a0/8",
    "1/0 3/8 8/0 15/8 2/0 39/8 2/0 3/8 1/0 25/8 7/0 3/8 5/0 c3/8 8/0 2/8 3/0 1/8 1/0 17/8 1/0 54/8",
    "6/0 1/8 1/0 4/8 2/0 1/8 2/0 ee/8 4/0 6/8 2/0 1/8 2/0 1b/8 2/0 55/8 8/0 2/8 1/0 1/8 2/0 1f/d d/0",
    "3e/8 1/0 1/8 1/0 2/8 6/0 1/8 1/0 65/8 3/0 2/8 4/0 1/8 5/0 103/8 9/0 1/8 2/0 100/8 2/0 1/8 1/0",
    "4/8 1/0 90/8 4/0 2/8 2/0 4/8 1/0 20/8 6/0 2/8 2/0 28/8 6/0 2/8 4/0 8/8 1/0 9/8 6/0 2/8 3/0 2e/8",
    "d/0 1/8 2/0 196/8 7/0 1/8 6/0 54/8 16/0 2/8 7/0 1/8 2/0 1/8 2/0 7a/8 6/0 3/8 1/0 1/8 2/0 1/8 7/0",
    "1/8 1/0 48/8 2/0 3/8 1/0 1/8 1/0 15b/8 2/0 e0/d 8/5 4/d 11/0 4afe/8 5/0 3b/8 7/0 418/8 1/0 3f/8",
    "4/0 4f/d 1/0 1/8 1/0 4cb8/8 2/0 1/9 4/0 125c/8 2e/0 2/8 17/0 220/8 3/0 9/9 8/8 8/0 2/8 7/0 1e/8",
    "4/0 3b/d 2/0 15/d 42/8 3/d 1/0 ba/d 57/0 384/d 1/0 39/d 1/0 39/d 1/0 39/d 1/0 39/d 1/0 a/3 32/0",
    "200/8 37/0 4/8 32/0 8/8 1/0 e/8 1/0 16/8 5/0 1/8 f/0 550/8 7/0 1/8 11/0 2/8 7/0 1/8 2/0 1/8 5/0",
    "105/8 7/0 177/8 1/0 3d/8 4/0 f/5 1/0 500/1 c5/0 2/1 9/8 7/0 29/1 44/8 7/1 1/0 4/1 a/0 4/1 2/0",
    "311/2 44/0 4c/2 3d/0 c2/2 4/0 1/2 1b/0 1/2 2/0 1/2 1/0 2/2 1/0 1/2 a/0 1/2 4/0 1/2 1/0 1/2 1/0",
    "6/2 1/0 4/2 1/0 1/2 1/0 1/2 1/0 1/2 3/0 1/2 2/0 1/2 1/0 2/2 1/0 1/2 1/0 1/2 1/0 1/2 1/0 1/2 1/0",
    "1/2 2/0 1/2 1/0 2/2 4/0 1/2 7/0 1/2 4/0 1/2 4/0 1/2 1/0 1/2 a/0 1/2 11/0 5/2 3/0 1/2 5/0 1/2",
    "11/0 34/d 2/0 10e/d 2c/0 4/d 64/0 c/d f/0 2/d f/0 1/d f/0 1/d 25/0 a/3 b/d 5/0 1f/d 1/0 3a/d 6/0",
    "3d/d 1/0 b2/d 6/0 9a/d 3d8/0 5/d 10/0 3/d d/0 3/d 74/0 c/d 59/0 7/d c/0 4/d 1/0 f/d c/0 4/d 38/0",
    "8/d a/0 6/d 28/0 8/d 1e/0 2/d 2/0 4e/d 154/0 c/d e/0 2/d 5/0 3/d 5/0 3/d 7/0 9/d 1d/0 3/d b/0",
    "5/d 6/0 a/d a/0 6/d 8/0 8/d 7/0 9/d 93/0 1/d 37/0 25/3 a/0 c0407/9 1/0 1e/9 60/0 80/8 f0/0"]

/-- The bidirectional classes. -/
def bidiTable : RunTable := RunTable.ofText bidiRuns

/-- The bidirectional class of a character. -/
def bidiClass (c : Char) : BidiClass := BidiClass.ofIndex (bidiTable.get c.toNat)

end TenderClient.Unicode
