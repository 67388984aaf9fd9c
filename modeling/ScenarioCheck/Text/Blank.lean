/-! White space. One set of characters serves trimming, step lines and headers. -/
namespace ScenarioCheck.Text

/-- White space: the ASCII blanks, the four information separators, NEL and the Unicode spaces. -/
def isBlank (c : Char) : Bool :=
  let n := c.toNat
  (0x09 ≤ n && n ≤ 0x0D) || (0x1C ≤ n && n ≤ 0x20) || n == 0x85 || n == 0xA0 || n == 0x1680 ||
    (0x2000 ≤ n && n ≤ 0x200A) || n == 0x2028 || n == 0x2029 || n == 0x202F || n == 0x205F ||
    n == 0x3000

def trimStart (text : List Char) : List Char := text.dropWhile isBlank

def trimEnd (text : List Char) : List Char := (text.reverse.dropWhile isBlank).reverse

def trim (text : List Char) : List Char := trimEnd (trimStart text)

def leadingBlanks (text : List Char) : List Char := text.takeWhile isBlank

@[simp] theorem leadingBlanks_append_trimStart (text : List Char) :
    leadingBlanks text ++ trimStart text = text := List.takeWhile_append_dropWhile

def trimmed (text : String) : String := String.ofList (trim text.toList)

/-- ASCII letters in lower case, all else unchanged. -/
def lowerAscii (text : String) : String := text.map Char.toLower

end ScenarioCheck.Text
