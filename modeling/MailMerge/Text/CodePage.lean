/-!
# Code pages

Encodings of one byte for each character. Bytes below 128 are ASCII in all of them, so a page is
given by its upper half, in which U+FFFD stands where a byte has no character.
-/

namespace MailMerge

/-- The characters of the bytes from 128 on. -/
structure CodePage where
  upper : List Char
  deriving DecidableEq, Repr

namespace CodePage

/-- The character of a byte. -/
def char? (p : CodePage) (b : UInt8) : Option Char :=
  if b < 128 then some (Char.ofNat b.toNat)
  else
    match p.upper[b.toNat - 128]? with
    | some c => if c = '\uFFFD' then none else some c
    | none => none

/-- The control characters from U+0080 on. -/
def controls : String :=
  String.ofList ((List.range 32).map fun i => Char.ofNat (128 + i))

def ibm437 : CodePage :=
  ⟨("ÇüéâäàåçêëèïîìÄÅÉæÆôöòûùÿÖÜ¢£¥₧ƒáíóúñÑªº¿⌐¬½¼¡«»░▒▓│┤╡╢╖╕╣║╗╝╜╛┐└┴┬├─┼╞╟╚╔╩╦╠═╬╧╨╤╥╙╘╒" ++
    "╓╫╪┘┌█▄▌▐▀αßΓπΣσµτΦΘΩδ∞φε∩≡±≥≤⌠⌡÷≈°∙·√ⁿ²■\u00A0").toList⟩

def ibm866 : CodePage :=
  ⟨("АБВГДЕЖЗИЙКЛМНОПРСТУФХЦЧШЩЪЫЬЭЮЯабвгдежзийклмноп░▒▓│┤╡╢╖╕╣║╗╝╜╛┐└┴┬├─┼╞╟╚╔╩╦╠═╬╧╨╤╥╙╘╒" ++
    "╓╫╪┘┌█▄▌▐▀рстуфхцчшщъыьэюяЁёЄєЇїЎў°∙·√№¤■\u00A0").toList⟩

def latin2 : CodePage :=
  ⟨(controls ++
    "\u00A0Ą˘Ł¤ĽŚ§¨ŠŞŤŹ\u00ADŽŻ°ą˛ł´ľśˇ¸šşťź˝žżŔÁÂĂÄĹĆÇČÉĘËĚÍÎĎĐŃŇÓÔŐÖ×ŘŮÚŰÜÝŢßŕáâăäĺćçčéęë" ++
    "ěíîďđńňóôőö÷řůúűüýţ˙").toList⟩

def latin3 : CodePage :=
  ⟨(controls ++
    "\u00A0Ħ˘£¤\uFFFDĤ§¨İŞĞĴ\u00AD\uFFFDŻ°ħ²³´µĥ·¸ışğĵ½\uFFFDżÀÁÂ\uFFFDÄĊĈÇÈÉÊËÌÍÎÏ\uFFFDÑÒ" ++
    "ÓÔĠÖ×ĜÙÚÛÜŬŜßàáâ\uFFFDäċĉçèéêëìíîï\uFFFDñòóôġö÷ĝùúûüŭŝ˙").toList⟩

def latin4 : CodePage :=
  ⟨(controls ++
    "\u00A0ĄĸŖ¤ĨĻ§¨ŠĒĢŦ\u00ADŽ¯°ą˛ŗ´ĩļˇ¸šēģŧŊžŋĀÁÂÃÄÅÆĮČÉĘËĖÍÎĪĐŅŌĶÔÕÖ×ØŲÚÛÜŨŪßāáâãäåæįčéęë" ++
    "ėíîīđņōķôõö÷øųúûüũū˙").toList⟩

def cyrillic : CodePage :=
  ⟨(controls ++
    "\u00A0ЁЂЃЄЅІЇЈЉЊЋЌ\u00ADЎЏАБВГДЕЖЗИЙКЛМНОПРСТУФХЦЧШЩЪЫЬЭЮЯабвгдежзийклмнопрстуфхцчшщъы" ++
    "ьэюя№ёђѓєѕіїјљњћќ§ўџ").toList⟩

def arabic : CodePage :=
  ⟨(controls ++
    "\u00A0\uFFFD\uFFFD\uFFFD¤\uFFFD\uFFFD\uFFFD\uFFFD\uFFFD\uFFFD\uFFFD،\u00AD\uFFFD\uFFFD" ++
    "\uFFFD\uFFFD\uFFFD\uFFFD\uFFFD\uFFFD\uFFFD\uFFFD\uFFFD\uFFFD\uFFFD؛\uFFFD\uFFFD\uFFFD؟" ++
    "\uFFFDءآأؤإئابةتثجحخدذرزسشصضطظعغ\uFFFD\uFFFD\uFFFD\uFFFD\uFFFDـفقكلمنهوىي\u064B\u064C" ++
    "\u064D\u064E\u064F\u0650\u0651\u0652\uFFFD\uFFFD\uFFFD\uFFFD\uFFFD\uFFFD\uFFFD\uFFFD" ++
    "\uFFFD\uFFFD\uFFFD\uFFFD\uFFFD").toList⟩

def greek : CodePage :=
  ⟨(controls ++
    "\u00A0‘’£€₯¦§¨©ͺ«¬\u00AD\uFFFD―°±²³΄΅Ά·ΈΉΊ»Ό½ΎΏΐΑΒΓΔΕΖΗΘΙΚΛΜΝΞΟΠΡ\uFFFDΣΤΥΦΧΨΩΪΫάέήίΰα" ++
    "βγδεζηθικλμνξοπρςστυφχψωϊϋόύώ\uFFFD").toList⟩

def hebrew : CodePage :=
  ⟨(controls ++
    "\u00A0\uFFFD¢£¤¥¦§¨©×«¬\u00AD®¯°±²³´µ¶·¸¹÷»¼½¾\uFFFD\uFFFD\uFFFD\uFFFD\uFFFD\uFFFD" ++
    "\uFFFD\uFFFD\uFFFD\uFFFD\uFFFD\uFFFD\uFFFD\uFFFD\uFFFD\uFFFD\uFFFD\uFFFD\uFFFD\uFFFD" ++
    "\uFFFD\uFFFD\uFFFD\uFFFD\uFFFD\uFFFD\uFFFD\uFFFD\uFFFD\uFFFD\uFFFD\uFFFD‗אבגדהוזחטיךכל" ++
    "םמןנסעףפץצקרשת\uFFFD\uFFFD\u200E\u200F\uFFFD").toList⟩

def latin6 : CodePage :=
  ⟨(controls ++
    "\u00A0ĄĒĢĪĨĶ§ĻĐŠŦŽ\u00ADŪŊ°ąēģīĩķ·ļđšŧž―ūŋĀÁÂÃÄÅÆĮČÉĘËĖÍÎÏÐŅŌÓÔÕÖŨØŲÚÛÜÝÞßāáâãäåæįčéęë" ++
    "ėíîïðņōóôõöũøųúûüýþĸ").toList⟩

def latin7 : CodePage :=
  ⟨(controls ++
    "\u00A0”¢£¤„¦§Ø©Ŗ«¬\u00AD®Æ°±²³“µ¶·ø¹ŗ»¼½¾æĄĮĀĆÄÅĘĒČÉŹĖĢĶĪĻŠŃŅÓŌÕÖ×ŲŁŚŪÜŻŽßąįāćäåęēčéźė" ++
    "ģķīļšńņóōõö÷ųłśūüżž’").toList⟩

def latin8 : CodePage :=
  ⟨(controls ++
    "\u00A0Ḃḃ£ĊċḊ§Ẁ©ẂḋỲ\u00AD®ŸḞḟĠġṀṁ¶ṖẁṗẃṠỳẄẅṡÀÁÂÃÄÅÆÇÈÉÊËÌÍÎÏŴÑÒÓÔÕÖṪØÙÚÛÜÝŶßàáâãäåæçèéêë" ++
    "ìíîïŵñòóôõöṫøùúûüýŷÿ").toList⟩

def latin9 : CodePage :=
  ⟨(controls ++
    "\u00A0¡¢£€¥Š§š©ª«¬\u00AD®¯°±²³Žµ¶·ž¹º»ŒœŸ¿ÀÁÂÃÄÅÆÇÈÉÊËÌÍÎÏÐÑÒÓÔÕÖ×ØÙÚÛÜÝÞßàáâãäåæçèéêë" ++
    "ìíîïðñòóôõö÷øùúûüýþÿ").toList⟩

def latin10 : CodePage :=
  ⟨(controls ++
    "\u00A0ĄąŁ€„Š§š©Ș«Ź\u00ADźŻ°±ČłŽ”¶·žčș»ŒœŸżÀÁÂĂÄĆÆÇÈÉÊËÌÍÎÏĐŃÒÓÔŐÖŚŰÙÚÛÜĘȚßàáâăäćæçèéêë" ++
    "ìíîïđńòóôőöśűùúûüęțÿ").toList⟩

def koi8R : CodePage :=
  ⟨("─│┌┐└┘├┤┬┴┼▀▄█▌▐░▒▓⌠■∙√≈≤≥\u00A0⌡°²·÷═║╒ё╓╔╕╖╗╘╙╚╛╜╝╞╟╠╡Ё╢╣╤╥╦╧╨╩╪╫╬©юабцдефгхийклмноп" ++
    "ярстужвьызшэщчъЮАБЦДЕФГХИЙКЛМНОПЯРСТУЖВЬЫЗШЭЩЧЪ").toList⟩

def koi8U : CodePage :=
  ⟨("─│┌┐└┘├┤┬┴┼▀▄█▌▐░▒▓⌠■∙√≈≤≥\u00A0⌡°²·÷═║╒ёє╔ії╗╘╙╚╛ґў╞╟╠╡ЁЄ╣ІЇ╦╧╨╩╪ҐЎ©юабцдефгхийклмноп" ++
    "ярстужвьызшэщчъЮАБЦДЕФГХИЙКЛМНОПЯРСТУЖВЬЫЗШЭЩЧЪ").toList⟩

def macRoman : CodePage :=
  ⟨("ÄÅÇÉÑÖÜáàâäãåçéèêëíìîïñóòôöõúùûü†°¢£§•¶ß®©™´¨≠ÆØ∞±≤≥¥µ∂∑∏π∫ªºΩæø¿¡¬√ƒ≈∆«»…\u00A0ÀÃÕŒœ–" ++
    "—“”‘’÷◊ÿŸ⁄€‹›ﬁﬂ‡·‚„‰ÂÊÁËÈÍÎÏÌÓÔ\uF8FFÒÚÛÙıˆ˜¯˘˙˚¸˝˛ˇ").toList⟩

def macCyrillic : CodePage :=
  ⟨("АБВГДЕЖЗИЙКЛМНОПРСТУФХЦЧШЩЪЫЬЭЮЯ†°Ґ£§•¶І®©™Ђђ≠Ѓѓ∞±≤≥іµґЈЄєЇїЉљЊњјЅ¬√ƒ≈∆«»…\u00A0ЋћЌќѕ–" ++
    "—“”‘’÷„ЎўЏџ№Ёёяабвгдежзийклмнопрстуфхцчшщъыьэю€").toList⟩

def windows874 : CodePage :=
  ⟨("€\u0081\u0082\u0083\u0084…\u0086\u0087\u0088\u0089\u008A\u008B\u008C\u008D\u008E\u008F" ++
    "\u0090‘’“”•–—\u0098\u0099\u009A\u009B\u009C\u009D\u009E\u009F\u00A0กขฃคฅฆงจฉชซฌญฎฏฐฑฒณ" ++
    "ดตถทธนบปผฝพฟภมยรฤลฦวศษสหฬอฮฯะ\u0E31าำ\u0E34\u0E35\u0E36\u0E37\u0E38\u0E39\u0E3A\uFFFD" ++
    "\uFFFD\uFFFD\uFFFD฿เแโใไๅๆ\u0E47\u0E48\u0E49\u0E4A\u0E4B\u0E4C\u0E4D\u0E4E๏๐๑๒๓๔๕๖๗๘๙๚" ++
    "๛\uFFFD\uFFFD\uFFFD\uFFFD").toList⟩

def windows1250 : CodePage :=
  ⟨("€\u0081‚\u0083„…†‡\u0088‰Š‹ŚŤŽŹ\u0090‘’“”•–—\u0098™š›śťžź\u00A0ˇ˘Ł¤Ą¦§¨©Ş«¬\u00AD®Ż°±˛" ++
    "ł´µ¶·¸ąş»Ľ˝ľżŔÁÂĂÄĹĆÇČÉĘËĚÍÎĎĐŃŇÓÔŐÖ×ŘŮÚŰÜÝŢßŕáâăäĺćçčéęëěíîďđńňóôőö÷řůúűüýţ˙").toList⟩

def windows1251 : CodePage :=
  ⟨("ЂЃ‚ѓ„…†‡€‰Љ‹ЊЌЋЏђ‘’“”•–—\u0098™љ›њќћџ\u00A0ЎўЈ¤Ґ¦§Ё©Є«¬\u00AD®Ї°±Ііґµ¶·ё№є»јЅѕїАБВГДЕЖ" ++
    "ЗИЙКЛМНОПРСТУФХЦЧШЩЪЫЬЭЮЯабвгдежзийклмнопрстуфхцчшщъыьэюя").toList⟩

def windows1252 : CodePage :=
  ⟨("€\u0081‚ƒ„…†‡ˆ‰Š‹Œ\u008DŽ\u008F\u0090‘’“”•–—˜™š›œ\u009DžŸ\u00A0¡¢£¤¥¦§¨©ª«¬\u00AD®¯°±²" ++
    "³´µ¶·¸¹º»¼½¾¿ÀÁÂÃÄÅÆÇÈÉÊËÌÍÎÏÐÑÒÓÔÕÖ×ØÙÚÛÜÝÞßàáâãäåæçèéêëìíîïðñòóôõö÷øùúûüýþÿ").toList⟩

def windows1253 : CodePage :=
  ⟨("€\u0081‚ƒ„…†‡\u0088‰\u008A‹\u008C\u008D\u008E\u008F\u0090‘’“”•–—\u0098™\u009A›\u009C" ++
    "\u009D\u009E\u009F\u00A0΅Ά£¤¥¦§¨©\uFFFD«¬\u00AD®―°±²³΄µ¶·ΈΉΊ»Ό½ΎΏΐΑΒΓΔΕΖΗΘΙΚΛΜΝΞΟΠΡ" ++
    "\uFFFDΣΤΥΦΧΨΩΪΫάέήίΰαβγδεζηθικλμνξοπρςστυφχψωϊϋόύώ\uFFFD").toList⟩

def windows1254 : CodePage :=
  ⟨("€\u0081‚ƒ„…†‡ˆ‰Š‹Œ\u008D\u008E\u008F\u0090‘’“”•–—˜™š›œ\u009D\u009EŸ\u00A0¡¢£¤¥¦§¨©ª«¬" ++
    "\u00AD®¯°±²³´µ¶·¸¹º»¼½¾¿ÀÁÂÃÄÅÆÇÈÉÊËÌÍÎÏĞÑÒÓÔÕÖ×ØÙÚÛÜİŞßàáâãäåæçèéêëìíîïğñòóôõö÷øùúûüı" ++
    "şÿ").toList⟩

def windows1255 : CodePage :=
  ⟨("€\u0081‚ƒ„…†‡ˆ‰\u008A‹\u008C\u008D\u008E\u008F\u0090‘’“”•–—˜™\u009A›\u009C\u009D\u009E" ++
    "\u009F\u00A0¡¢£₪¥¦§¨©×«¬\u00AD®¯°±²³´µ¶·¸¹÷»¼½¾¿\u05B0\u05B1\u05B2\u05B3\u05B4\u05B5" ++
    "\u05B6\u05B7\u05B8\u05B9\u05BA\u05BB\u05BC\u05BD־\u05BF׀\u05C1\u05C2׃װױײ׳״\uFFFD\uFFFD" ++
    "\uFFFD\uFFFD\uFFFD\uFFFD\uFFFDאבגדהוזחטיךכלםמןנסעףפץצקרשת\uFFFD\uFFFD\u200E\u200F" ++
    "\uFFFD").toList⟩

def windows1256 : CodePage :=
  ⟨("€پ‚ƒ„…†‡ˆ‰ٹ‹Œچژڈگ‘’“”•–—ک™ڑ›œ\u200C\u200Dں\u00A0،¢£¤¥¦§¨©ھ«¬\u00AD®¯°±²³´µ¶·¸¹؛»¼½¾؟ہء" ++
    "آأؤإئابةتثجحخدذرزسشصض×طظعغـفقكàلâمنهوçèéêëىيîï\u064B\u064C\u064D\u064Eô\u064F\u0650÷" ++
    "\u0651ù\u0652ûü\u200E\u200Fے").toList⟩

def windows1257 : CodePage :=
  ⟨("€\u0081‚\u0083„…†‡\u0088‰\u008A‹\u008C¨ˇ¸\u0090‘’“”•–—\u0098™\u009A›\u009C¯˛\u009F" ++
    "\u00A0\uFFFD¢£¤\uFFFD¦§Ø©Ŗ«¬\u00AD®Æ°±²³´µ¶·ø¹ŗ»¼½¾æĄĮĀĆÄÅĘĒČÉŹĖĢĶĪĻŠŃŅÓŌÕÖ×ŲŁŚŪÜŻŽßąį" ++
    "āćäåęēčéźėģķīļšńņóōõö÷ųłśūüżž˙").toList⟩

def windows1258 : CodePage :=
  ⟨("€\u0081‚ƒ„…†‡ˆ‰\u008A‹Œ\u008D\u008E\u008F\u0090‘’“”•–—˜™\u009A›œ\u009D\u009EŸ\u00A0¡¢£" ++
    "¤¥¦§¨©ª«¬\u00AD®¯°±²³´µ¶·¸¹º»¼½¾¿ÀÁÂĂÄÅÆÇÈÉÊË\u0300ÍÎÏĐÑ\u0309ÓÔƠÖ×ØÙÚÛÜƯ\u0303ßàáâăäå" ++
    "æçèéêë\u0301íîïđñ\u0323óôơö÷øùúûüư₫ÿ").toList⟩

end CodePage

end MailMerge
