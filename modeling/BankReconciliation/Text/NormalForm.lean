import BankReconciliation.Text.Blank
import BankReconciliation.Text.Uppercase

/-! The form in which bank names and header labels are compared: accents folded, letters in upper
case, one space between words. -/

namespace BankReconciliation.Text

def accents : List (Char × Char) := [
  ('á', 'a'), ('à', 'a'), ('â', 'a'), ('ã', 'a'), ('ä', 'a'),
  ('Á', 'A'), ('À', 'A'), ('Â', 'A'), ('Ã', 'A'), ('Ä', 'A'),
  ('é', 'e'), ('è', 'e'), ('ê', 'e'), ('ë', 'e'),
  ('É', 'E'), ('È', 'E'), ('Ê', 'E'), ('Ë', 'E'),
  ('í', 'i'), ('ì', 'i'), ('î', 'i'), ('ï', 'i'),
  ('Í', 'I'), ('Ì', 'I'), ('Î', 'I'), ('Ï', 'I'),
  ('ó', 'o'), ('ò', 'o'), ('ô', 'o'), ('õ', 'o'), ('ö', 'o'),
  ('Ó', 'O'), ('Ò', 'O'), ('Ô', 'O'), ('Õ', 'O'), ('Ö', 'O'),
  ('ú', 'u'), ('ù', 'u'), ('û', 'u'), ('ü', 'u'),
  ('Ú', 'U'), ('Ù', 'U'), ('Û', 'U'), ('Ü', 'U'),
  ('ç', 'c'), ('Ç', 'C'), ('ñ', 'n'), ('Ñ', 'N')]

/-- The plain letter of a listed accented letter; any other character is kept. -/
def foldAccent (c : Char) : Char := (accents.lookup c).getD c

def normalChars (cs : List Char) : List Char :=
  upper (unwords ((words cs).map fun w => w.map foldAccent))

def normalForm (s : String) : String := String.ofList (normalChars s.toList)

@[simp] theorem toList_normalForm (s : String) : (normalForm s).toList = normalChars s.toList := by
  simp [normalForm]

end BankReconciliation.Text
