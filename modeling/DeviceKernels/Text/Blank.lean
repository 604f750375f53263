namespace DeviceKernels.Text

/-- The ranges of code points that have the white space property. -/
def blankRanges : List (Nat × Nat) :=
  [(0x9, 0xD), (0x20, 0x20), (0x85, 0x85), (0xA0, 0xA0), (0x1680, 0x1680), (0x2000, 0x200A),
    (0x2028, 0x2029), (0x202F, 0x202F), (0x205F, 0x205F), (0x3000, 0x3000)]

def isBlank (character : Char) : Bool :=
  blankRanges.any fun range => range.1 ≤ character.toNat && character.toNat ≤ range.2

def trimStart (characters : List Char) : List Char := characters.dropWhile isBlank

def trimEnd (characters : List Char) : List Char :=
  (characters.reverse.dropWhile isBlank).reverse

def trim (text : String) : String := String.ofList (trimEnd (trimStart text.toList))

/-- The words between white space; the letters of a word that has begun stand before the text. -/
def splitWords : List Char → List Char → List (List Char)
  | word, [] => if word.isEmpty then [] else [word.reverse]
  | word, character :: rest =>
      if !isBlank character then splitWords (character :: word) rest
      else if word.isEmpty then splitWords [] rest
      else word.reverse :: splitWords [] rest

def words (text : String) : List String := (splitWords [] text.toList).map String.ofList

end DeviceKernels.Text
