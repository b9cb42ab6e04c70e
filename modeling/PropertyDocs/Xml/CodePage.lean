/-!
# Code pages

Encodings of one byte per character that agree with ASCII below 128. A byte that stands for no
character is given the code point U+FFFF, which no XML document may hold.
-/
namespace PropertyDocs.Xml

/-- The characters of the bytes from `first` on; the bytes from 128 to `first` stand for the
controls of the same code. -/
structure CodePage where
  first : Nat
  chars : String

namespace CodePage

/-- The page whose bytes are the first 256 code points. -/
def latin1 : CodePage := ⟨0x100, ""⟩

def latin2 : CodePage := ⟨0xa0,
  "\u00a0Ą˘Ł¤ĽŚ§¨ŠŞŤŹ\u00adŽŻ°ą˛ł´ľśˇ¸šşťź˝žż" ++
  "ŔÁÂĂÄĹĆÇČÉĘËĚÍÎĎĐŃŇÓÔŐÖ×ŘŮÚŰÜÝŢß" ++
  "ŕáâăäĺćçčéęëěíîďđńňóôőö÷řůúűüýţ˙"⟩

def latin3 : CodePage := ⟨0xa0,
  "\u00a0Ħ˘£¤\uffffĤ§¨İŞĞĴ\u00ad\uffffŻ°ħ²³´µĥ·¸ışğĵ½\uffffż" ++
  "ÀÁÂ\uffffÄĊĈÇÈÉÊËÌÍÎÏ\uffffÑÒÓÔĠÖ×ĜÙÚÛÜŬŜß" ++
  "àáâ\uffffäċĉçèéêëìíîï\uffffñòóôġö÷ĝùúûüŭŝ˙"⟩

def latin4 : CodePage := ⟨0xa0,
  "\u00a0ĄĸŖ¤ĨĻ§¨ŠĒĢŦ\u00adŽ¯°ą˛ŗ´ĩļˇ¸šēģŧŊžŋ" ++
  "ĀÁÂÃÄÅÆĮČÉĘËĖÍÎĪĐŅŌĶÔÕÖ×ØŲÚÛÜŨŪß" ++
  "āáâãäåæįčéęëėíîīđņōķôõö÷øųúûüũū˙"⟩

def cyrillicIso : CodePage := ⟨0xa0,
  "\u00a0ЁЂЃЄЅІЇЈЉЊЋЌ\u00adЎЏАБВГДЕЖЗИЙКЛМНОП" ++
  "РСТУФХЦЧШЩЪЫЬЭЮЯабвгдежзийклмноп" ++
  "рстуфхцчшщъыьэюя№ёђѓєѕіїјљњћќ§ўџ"⟩

def greekIso : CodePage := ⟨0xa0,
  "\u00a0‘’£€₯¦§¨©ͺ«¬\u00ad\uffff―°±²³΄΅Ά·ΈΉΊ»Ό½ΎΏ" ++
  "ΐΑΒΓΔΕΖΗΘΙΚΛΜΝΞΟΠΡ\uffffΣΤΥΦΧΨΩΪΫάέήί" ++
  "ΰαβγδεζηθικλμνξοπρςστυφχψωϊϋόύώ\uffff"⟩

def latin5 : CodePage := ⟨0xa0,
  "\u00a0¡¢£¤¥¦§¨©ª«¬\u00ad®¯°±²³´µ¶·¸¹º»¼½¾¿" ++
  "ÀÁÂÃÄÅÆÇÈÉÊËÌÍÎÏĞÑÒÓÔÕÖ×ØÙÚÛÜİŞß" ++
  "àáâãäåæçèéêëìíîïğñòóôõö÷øùúûüışÿ"⟩

def latin9 : CodePage := ⟨0xa0,
  "\u00a0¡¢£€¥Š§š©ª«¬\u00ad®¯°±²³Žµ¶·ž¹º»ŒœŸ¿" ++
  "ÀÁÂÃÄÅÆÇÈÉÊËÌÍÎÏÐÑÒÓÔÕÖ×ØÙÚÛÜÝÞß" ++
  "àáâãäåæçèéêëìíîïðñòóôõö÷øùúûüýþÿ"⟩

def windows1250 : CodePage := ⟨0x80,
  "€\uffff‚\uffff„…†‡\uffff‰Š‹ŚŤŽŹ\uffff‘’“”•–—\uffff™š›śťžź" ++
  "\u00a0ˇ˘Ł¤Ą¦§¨©Ş«¬\u00ad®Ż°±˛ł´µ¶·¸ąş»Ľ˝ľż" ++
  "ŔÁÂĂÄĹĆÇČÉĘËĚÍÎĎĐŃŇÓÔŐÖ×ŘŮÚŰÜÝŢß" ++
  "ŕáâăäĺćçčéęëěíîďđńňóôőö÷řůúűüýţ˙"⟩

def windows1251 : CodePage := ⟨0x80,
  "ЂЃ‚ѓ„…†‡€‰Љ‹ЊЌЋЏђ‘’“”•–—\uffff™љ›њќћџ" ++
  "\u00a0ЎўЈ¤Ґ¦§Ё©Є«¬\u00ad®Ї°±Ііґµ¶·ё№є»јЅѕї" ++
  "АБВГДЕЖЗИЙКЛМНОПРСТУФХЦЧШЩЪЫЬЭЮЯ" ++
  "абвгдежзийклмнопрстуфхцчшщъыьэюя"⟩

def windows1252 : CodePage := ⟨0x80,
  "€\uffff‚ƒ„…†‡ˆ‰Š‹Œ\uffffŽ\uffff\uffff‘’“”•–—˜™š›œ\uffffžŸ" ++
  "\u00a0¡¢£¤¥¦§¨©ª«¬\u00ad®¯°±²³´µ¶·¸¹º»¼½¾¿" ++
  "ÀÁÂÃÄÅÆÇÈÉÊËÌÍÎÏÐÑÒÓÔÕÖ×ØÙÚÛÜÝÞß" ++
  "àáâãäåæçèéêëìíîïðñòóôõö÷øùúûüýþÿ"⟩

def windows1253 : CodePage := ⟨0x80,
  "€\uffff‚ƒ„…†‡\uffff‰\uffff‹\uffff\uffff\uffff\uffff\uffff‘’“”•–—\uffff™\uffff›\uffff\uffff\uffff\uffff" ++
  "\u00a0΅Ά£¤¥¦§¨©\uffff«¬\u00ad®―°±²³΄µ¶·ΈΉΊ»Ό½ΎΏ" ++
  "ΐΑΒΓΔΕΖΗΘΙΚΛΜΝΞΟΠΡ\uffffΣΤΥΦΧΨΩΪΫάέήί" ++
  "ΰαβγδεζηθικλμνξοπρςστυφχψωϊϋόύώ\uffff"⟩

def windows1254 : CodePage := ⟨0x80,
  "€\uffff‚ƒ„…†‡ˆ‰Š‹Œ\uffff\uffff\uffff\uffff‘’“”•–—˜™š›œ\uffff\uffffŸ" ++
  "\u00a0¡¢£¤¥¦§¨©ª«¬\u00ad®¯°±²³´µ¶·¸¹º»¼½¾¿" ++
  "ÀÁÂÃÄÅÆÇÈÉÊËÌÍÎÏĞÑÒÓÔÕÖ×ØÙÚÛÜİŞß" ++
  "àáâãäåæçèéêëìíîïğñòóôõö÷øùúûüışÿ"⟩

def koi8r : CodePage := ⟨0x80,
  "─│┌┐└┘├┤┬┴┼▀▄█▌▐░▒▓⌠■∙√≈≤≥\u00a0⌡°²·÷" ++
  "═║╒ё╓╔╕╖╗╘╙╚╛╜╝╞╟╠╡Ё╢╣╤╥╦╧╨╩╪╫╬©" ++
  "юабцдефгхийклмнопярстужвьызшэщчъ" ++
  "ЮАБЦДЕФГХИЙКЛМНОПЯРСТУЖВЬЫЗШЭЩЧЪ"⟩

/-- The pages by the names that a document may call them, in lower case. -/
def named : List (String × CodePage) :=
  [("iso-8859-1", latin1), ("iso8859-1", latin1), ("iso_8859-1", latin1), ("iso-latin-1", latin1),
   ("latin1", latin1), ("l1", latin1), ("cp819", latin1), ("ibm819", latin1),
   ("iso-8859-2", latin2), ("iso8859-2", latin2), ("latin2", latin2), ("l2", latin2),
   ("iso-8859-3", latin3), ("latin3", latin3),
   ("iso-8859-4", latin4), ("latin4", latin4),
   ("iso-8859-5", cyrillicIso), ("cyrillic", cyrillicIso),
   ("iso-8859-7", greekIso), ("greek", greekIso),
   ("iso-8859-9", latin5), ("latin5", latin5), ("l5", latin5),
   ("iso-8859-15", latin9), ("latin-9", latin9), ("latin9", latin9),
   ("windows-1250", windows1250), ("cp1250", windows1250),
   ("windows-1251", windows1251), ("cp1251", windows1251),
   ("windows-1252", windows1252), ("cp1252", windows1252),
   ("windows-1253", windows1253), ("cp1253", windows1253),
   ("windows-1254", windows1254), ("cp1254", windows1254),
   ("koi8-r", koi8r)]

def decode (page : CodePage) (b : UInt8) : Char :=
  if b.toNat < page.first then Char.ofNat b.toNat
  else (page.chars.toList[b.toNat - page.first]?).getD '\uffff'

end CodePage

end PropertyDocs.Xml
