import TemplateMetrics.Text.Blank

/-!
Lines of a text.
-/

namespace TemplateMetrics.Text

/-- Split after each line feed; the last piece may lack one. -/
def pieces : List Char → List Char → List (List Char)
  | acc, [] => if acc.isEmpty then [] else [acc.reverse]
  | acc, c :: r => if c = '\n' then (c :: acc).reverse :: pieces [] r else pieces (c :: acc) r

def withoutEnd (piece : List Char) : List Char :=
  match piece.reverse with
  | '\n' :: '\r' :: r => r.reverse
  | '\n' :: r => r.reverse
  | _ => piece

/-- The lines of a text. A final line feed ends the last line and starts no other. -/
def lines (cs : List Char) : List (List Char) := (pieces [] cs).map withoutEnd

end TemplateMetrics.Text
