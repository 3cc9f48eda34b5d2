/-! How much two texts are alike, to suggest what may have been meant. The longest common piece of two
texts is matched first, and then what stands before it and after it in the same way. -/

namespace C4Model.Text

def commonPrefixLength : List Char → List Char → Nat
  | a :: as, b :: bs => if a = b then commonPrefixLength as bs + 1 else 0
  | _, _ => 0

/-- A common piece by where it begins in each text and its length. -/
structure CommonPiece where
  left : Nat := 0
  right : Nat := 0
  size : Nat := 0

/-- The longest common piece; of several the one furthest left in the first text and then in the
second. -/
def longestCommonPiece (a b : List Char) : CommonPiece :=
  let starts := (List.range a.length).flatMap fun i => (List.range b.length).map fun j => (i, j)
  starts.foldl (fun best (i, j) =>
    let size := commonPrefixLength (a.drop i) (b.drop j)
    if best.size < size then ⟨i, j, size⟩ else best) {}

/-- The number of characters matched. The first argument bounds the depth of the search. -/
def matchedCount : Nat → List Char → List Char → Nat
  | 0, _, _ => 0
  | bound + 1, a, b =>
      let piece := longestCommonPiece a b
      if piece.size = 0 then 0
      else
        matchedCount bound (a.take piece.left) (b.take piece.right) + piece.size
          + matchedCount bound (a.drop (piece.left + piece.size)) (b.drop (piece.right + piece.size))

/-- The number of characters that a candidate and a word have in common. -/
def matched (candidate word : String) : Nat :=
  matchedCount (candidate.length + 1) candidate.toList word.toList

/-- Whether three fifths of the characters of two texts are matched. -/
def isSimilar (candidate word : String) : Bool :=
  3 * (candidate.length + word.length) ≤ 10 * matched candidate word

/-- Whether the first candidate is more like the word than the second; the later in the alphabet if both
are alike. -/
def isCloser (word a b : String) : Bool :=
  let left := matched a word * (b.length + word.length)
  let right := matched b word * (a.length + word.length)
  decide (right < left) || (left == right && decide (b < a))

/-- Up to three candidates that are similar to a word, in alphabetical order. -/
def similarTo (word : String) (candidates : List String) : List String :=
  let similar := (candidates.filter (isSimilar · word)).mergeSort (isCloser word)
  (similar.take 3).mergeSort fun a b => decide (a < b)

end C4Model.Text
