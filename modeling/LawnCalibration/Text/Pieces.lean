/-
Lists cut at a mark.

There is always one piece more than there are marks; two marks side by side have
an empty piece between them.
-/

set_option autoImplicit false

namespace LawnCalibration.Text

variable {α : Type} [DecidableEq α]

def pieces (mark : α) : List α → List (List α)
  | [] => [[]]
  | a :: rest =>
      if a = mark then [] :: pieces mark rest
      else
        match pieces mark rest with
        | first :: more => (a :: first) :: more
        | [] => [[a]]

/-- What stands in front of the first mark, and what stands behind it if there is a mark. -/
def cutAt (mark : α) (items : List α) : List α × Option (List α) :=
  match items.dropWhile (· ≠ mark) with
  | [] => (items, none)
  | _ :: rest => (items.takeWhile (· ≠ mark), some rest)

end LawnCalibration.Text
