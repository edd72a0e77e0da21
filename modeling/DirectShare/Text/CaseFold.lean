/-!
# Letters alike up to case

Two texts are alike up to case when their foldings agree. Here one of the two is always in small
ASCII letters, so of the foldings only those that give such letters count: every other character
may stay as it is, since it is in no such text before or after folding.

`foldChar` folds a character, and `foldCase` a text.
-/

namespace DirectShare.Text

/-- The folding of a character where it gives small ASCII letters: capitals become small, the sharp s
and the joined letters come apart, the long s is an s, and the sign of the kelvin is a k. -/
def foldChar : Char → List Char
  | 'ß' | 'ẞ' => ['s', 's']
  | 'ſ' => ['s']
  | '\u212a' => ['k']
  | 'ﬀ' => ['f', 'f']
  | 'ﬁ' => ['f', 'i']
  | 'ﬂ' => ['f', 'l']
  | 'ﬃ' => ['f', 'f', 'i']
  | 'ﬄ' => ['f', 'f', 'l']
  | 'ﬅ' | 'ﬆ' => ['s', 't']
  | c => [c.toLower]

/-- The folding of a text, character by character. -/
def foldCase (cs : List Char) : List Char := cs.flatMap foldChar

end DirectShare.Text
