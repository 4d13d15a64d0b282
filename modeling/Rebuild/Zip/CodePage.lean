/-!
# Names in code page 437

The upper half of the code page; the lower half is ASCII.
-/

namespace Rebuild.Zip

def codePage437 : String :=
  "ÇüéâäàåçêëèïîìÄÅÉæÆôöòûùÿÖÜ¢£¥₧ƒ" ++
  "áíóúñÑªº¿⌐¬½¼¡«»░▒▓│┤╡╢╖╕╣║╗╝╜╛┐" ++
  "└┴┬├─┼╞╟╚╔╩╦╠═╬╧╨╤╥╙╘╒╓╫╪┘┌█▄▌▐▀" ++
  "αßΓπΣσµτΦΘΩδ∞φε∩≡±≥≤⌠⌡÷≈°∙·√ⁿ²■\u00a0"

/-- The character of a byte. -/
def codePageChar (byte : UInt8) : Char :=
  if byte < 0x80 then Char.ofUInt8 byte
  else (codePage437.toList[byte.toNat - 0x80]?).getD '\uFFFD'

def codePageText (bytes : List UInt8) : String := String.ofList (bytes.map codePageChar)

end Rebuild.Zip
