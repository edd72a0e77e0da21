import DirectShare.Text.Utf8

/-!
# Code page 437

The one-byte character set of early personal computers, which archives use for names that are not in
UTF-8. Its first half is ASCII.

Its second half is the table by which `CodePage.decode` gives the text of a byte string.
-/

namespace DirectShare.CodePage

/-- The characters of the second half. -/
def upperHalf : List Char :=
  ("ÇüéâäàåçêëèïîìÄÅÉæÆôöòûùÿÖÜ¢£¥₧ƒ" ++ "áíóúñÑªº¿⌐¬½¼¡«»░▒▓│┤╡╢╖╕╣║╗╝╜╛┐"
    ++ "└┴┬├─┼╞╟╚╔╩╦╠═╬╧╨╤╥╙╘╒╓╫╪┘┌█▄▌▐▀" ++ "αßΓπΣσµτΦΘΩδ∞φε∩≡±≥≤⌠⌡÷≈°∙·√ⁿ²■\u00a0").toList

/-- The character of a byte. -/
def character (b : UInt8) : Char :=
  if b < 0x80 then Char.ofNat b.toNat else upperHalf.getD (b.toNat - 128) ' '

/-- The text of a byte string. -/
def decode (bs : Bytes) : String := String.ofList (bs.map character)

end DirectShare.CodePage
