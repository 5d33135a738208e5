/-!
How alike two words are, for hints at what somebody may have meant.
-/

namespace HeapGraph.Text

structure Letter where
  char : Char
  paired : Bool
  deriving Repr, DecidableEq

def pairLetter (low high : Nat) (char : Char) (position : Nat) : List Letter → Option (List Letter)
  | [] => none
  | letter :: rest =>
    if low ≤ position && position < high && letter.char = char && !letter.paired then
      some ({ letter with paired := true } :: rest)
    else (pairLetter low high char (position + 1) rest).map (letter :: ·)

/-- The characters of a word that find their like in another word no more than `reach` positions
away, and what becomes of that other word. -/
def pairWord (reach position : Nat) (letters : List Letter) : List Char → List Char × List Letter
  | [] => ([], letters)
  | char :: rest =>
    match pairLetter (position - reach) (position + reach + 1) char 0 letters with
    | none => pairWord reach (position + 1) letters rest
    | some letters =>
      let paired := pairWord reach (position + 1) letters rest
      (char :: paired.1, paired.2)

/-- The similarity of two words after Jaro: the mean of the shares of either word that find their
like in the other, and of the share of those that are in the same order there. -/
def similarity (first second : List Char) : Rat :=
  if first = [] && second = [] then 1
  else
    let reach := max first.length second.length / 2 - 1
    let found := pairWord reach 0 (second.map (⟨·, false⟩)) first
    let ordered := (found.2.filter (·.paired)).map (·.char)
    let count := found.1.length
    let swapped := (found.1.zip ordered).countP (fun (left, right) => left != right) / 2
    if count = 0 then 0
    else ((count : Rat) / first.length + (count : Rat) / second.length +
      ((count - swapped : Nat) : Rat) / count) / 3

def worthAHint : Rat := 7 / 10

/-- The word that is most similar to a text, if any is similar enough. The later of two that are
equally similar is taken. -/
def mostSimilar? (text : String) (words : List String) : Option String :=
  let likeness (word : String) := similarity text.toList word.toList
  (words.filter (worthAHint ≤ likeness ·)).foldl
    (fun best word =>
      match best with
      | none => some word
      | some other => if likeness word < likeness other then best else some word)
    none

end HeapGraph.Text
