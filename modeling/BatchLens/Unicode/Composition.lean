import BatchLens.Unicode.RangeTable

/-!
# Composite characters

Many letters with a mark are characters of their own, beside the letter and the mark that they
are put together from. The table lists for each mark the characters that it can be put on, and
the composites in the same order. The syllables of Hangul are composites, too, but follow a
rule: the leading consonants, vowels and trailing consonants are numbered, and a syllable is
numbered by its parts.
-/

namespace BatchLens.Unicode

/-- A character that is put together from two others. -/
structure Composite where
  base : Char
  mark : Char
  whole : Char

/-- The composites of one mark: the characters at the same place in both texts belong together. -/
structure CompositeRow where
  mark : Nat
  bases : String
  wholes : String

/-- The composites of a row. -/
def CompositeRow.composites (row : CompositeRow) : List Composite :=
  (row.bases.toList.zip row.wholes.toList).map fun (base, whole) =>
    ⟨base, Char.ofNat row.mark, whole⟩

/-- The composites with a code point of four digits. -/
def compositeRows : List CompositeRow :=
  [
   ⟨0x300, "AEINOUWYaeinouwy\u00a8ÂÊÔÜâêôüĂăĒ", "ÀÈÌǸÒÙẀỲàèìǹòùẁỳ\u1fedẦỀỒǛầềồǜẰằḔ"⟩,
   ⟨0x300, "ēŌōƠơƯưΑΕΗΙΟΥΩαεηιουωϊϋЕИеиἀ", "ḕṐṑỜờỪừᾺῈῊῚῸῪῺὰὲὴὶὸὺὼῒῢЀЍѐѝἂ"⟩,
   ⟨0x300, "ἁἈἉἐἑἘἙἠἡἨἩἰἱἸἹὀὁὈὉὐὑὙὠὡὨὩ\u1fbf\u1ffe", "ἃἊἋἒἓἚἛἢἣἪἫἲἳἺἻὂὃὊὋὒὓὛὢὣὪὫ\u1fcd\u1fdd"⟩,
   ⟨0x301, "ACEGIKLMNOPRSUWYZacegiklmnoprs", "ÁĆÉǴÍḰĹḾŃÓṔŔŚÚẂÝŹáćéǵíḱĺḿńóṕŕś"⟩,
   ⟨0x301, "uwyz\u00a8ÂÅÆÇÊÏÔÕØÜâåæçêïôõøüĂăĒēŌ", "úẃýź\u0385ẤǺǼḈẾḮỐṌǾǗấǻǽḉếḯốṍǿǘẮắḖḗṒ"⟩,
   ⟨0x301, "ōŨũƠơƯưΑΕΗΙΟΥΩαεηιουωϊϋϒГКгкἀἁ", "ṓṸṹỚớỨứΆΈΉΊΌΎΏάέήίόύώΐΰϓЃЌѓќἄἅ"⟩,
   ⟨0x301, "ἈἉἐἑἘἙἠἡἨἩἰἱἸἹὀὁὈὉὐὑὙὠὡὨὩ\u1fbf\u1ffe", "ἌἍἔἕἜἝἤἥἬἭἴἵἼἽὄὅὌὍὔὕὝὤὥὬὭ\u1fce\u1fde"⟩,
   ⟨0x302, "ACEGHIJOSUWYZaceghijosuwyzẠạẸẹỌọ", "ÂĈÊĜĤÎĴÔŜÛŴŶẐâĉêĝĥîĵôŝûŵŷẑẬậỆệỘộ"⟩,
   ⟨0x303, "AEINOUVYaeinouvyÂÊÔâêôĂăƠơƯư", "ÃẼĨÑÕŨṼỸãẽĩñõũṽỹẪỄỖẫễỗẴẵỠỡỮữ"⟩,
   ⟨0x304, "AEGIOUYaegiouyÄÆÕÖÜäæõ", "ĀĒḠĪŌŪȲāēḡīōūȳǞǢȬȪǕǟǣȭ"⟩,
   ⟨0x304, "öüǪǫȦȧȮȯΑΙΥαιυИУиуḶḷṚṛ", "ȫǖǬǭǠǡȰȱᾹῙῩᾱῑῡӢӮӣӯḸḹṜṝ"⟩,
   ⟨0x306, "AEGIOUaegiouȨȩΑΙΥαιυАЕЖИУаежиуẠạ", "ĂĔĞĬŎŬăĕğĭŏŭḜḝᾸῘῨᾰῐῠӐӖӁЙЎӑӗӂйўẶặ"⟩,
   ⟨0x307, "ABCDEFGHIMNOPRSTWXYZabc", "ȦḂĊḊĖḞĠḢİṀṄȮṖṘṠṪẆẊẎŻȧḃċ"⟩,
   ⟨0x307, "defghmnoprstwxyzŚśŠšſṢṣ", "ḋėḟġḣṁṅȯṗṙṡṫẇẋẏżṤṥṦṧẛṨṩ"⟩,
   ⟨0x308, "AEHIOUWXYaehiotuwxyÕõŪūΙΥιυ", "ÄËḦÏÖÜẄẌŸäëḧïöẗüẅẍÿṎṏṺṻΪΫϊϋ"⟩,
   ⟨0x308, "ϒІАЕЖЗИОУЧЫЭаежзиоучыэіӘәӨө", "ϔЇӒЁӜӞӤӦӰӴӸӬӓёӝӟӥӧӱӵӹӭїӚӛӪӫ"⟩,
   ⟨0x309, "AEIOUYaeiouyÂÊÔâêôĂăƠơƯư", "ẢẺỈỎỦỶảẻỉỏủỷẨỂỔẩểổẲẳỞởỬử"⟩, ⟨0x30A, "AUauwy", "ÅŮåůẘẙ"⟩,
   ⟨0x30B, "OUouУу", "ŐŰőűӲӳ"⟩,
   ⟨0x30C, "ACDEGHIKLNORSTUZacdeghijklnorstuzÜüƷʒ", "ǍČĎĚǦȞǏǨĽŇǑŘŠŤǓŽǎčďěǧȟǐǰǩľňǒřšťǔžǙǚǮǯ"⟩,
   ⟨0x30F, "AEIORUaeioruѴѵ", "ȀȄȈȌȐȔȁȅȉȍȑȕѶѷ"⟩, ⟨0x311, "AEIORUaeioru", "ȂȆȊȎȒȖȃȇȋȏȓȗ"⟩,
   ⟨0x313, "ΑΕΗΙΟΩαεηιορυω", "ἈἘἨἸὈὨἀἐἠἰὀῤὐὠ"⟩, ⟨0x314, "ΑΕΗΙΟΡΥΩαεηιορυω", "ἉἙἩἹὉῬὙὩἁἑἡἱὁῥὑὡ"⟩,
   ⟨0x31B, "OUou", "ƠƯơư"⟩, ⟨0x323, "ABDEHIKLMNORSTUVWYZab", "ẠḄḌẸḤỊḲḶṂṆỌṚṢṬỤṾẈỴẒạḅ"⟩,
   ⟨0x323, "dehiklmnorstuvwyzƠơƯư", "ḍẹḥịḳḷṃṇọṛṣṭụṿẉỵẓỢợỰự"⟩, ⟨0x324, "Uu", "Ṳṳ"⟩,
   ⟨0x325, "Aa", "Ḁḁ"⟩, ⟨0x326, "STst", "ȘȚșț"⟩,
   ⟨0x327, "CDEGHKLNRSTcdeghklnrst", "ÇḐȨĢḨĶĻŅŖŞŢçḑȩģḩķļņŗşţ"⟩,
   ⟨0x328, "AEIOUaeiou", "ĄĘĮǪŲąęįǫų"⟩, ⟨0x32D, "DELNTUdelntu", "ḒḘḼṊṰṶḓḙḽṋṱṷ"⟩,
   ⟨0x32E, "Hh", "Ḫḫ"⟩, ⟨0x330, "EIUeiu", "ḚḬṴḛḭṵ"⟩,
   ⟨0x331, "BDKLNRTZbdhklnrtz", "ḆḎḴḺṈṞṮẔḇḏẖḵḻṉṟṯẕ"⟩,
   ⟨0x338, "<=>←→↔⇐⇒⇔∃∈∋∣∥∼≃≅≈≍≡≤≥", "≮≠≯↚↛↮⇍⇏⇎∄∉∌∤∦≁≄≇≉≭≢≰≱"⟩,
   ⟨0x338, "≲≳≶≷≺≻≼≽⊂⊃⊆⊇⊑⊒⊢⊨⊩⊫⊲⊳⊴⊵", "≴≵≸≹⊀⊁⋠⋡⊄⊅⊈⊉⋢⋣⊬⊭⊮⊯⋪⋫⋬⋭"⟩,
   ⟨0x342, "\u00a8αηιυωϊϋἀἁἈἉἠἡἨ", "\u1fc1ᾶῆῖῦῶῗῧἆἇἎἏἦἧἮ"⟩,
   ⟨0x342, "ἩἰἱἸἹὐὑὙὠὡὨὩ\u1fbf\u1ffe", "ἯἶἷἾἿὖὗὟὦὧὮὯ\u1fcf\u1fdf"⟩,
   ⟨0x345, "ΑΗΩάήαηωώἀἁἂἃἄἅἆἇἈἉἊἋἌἍἎἏἠἡἢἣἤἥἦ", "ᾼῌῼᾴῄᾳῃῳῴᾀᾁᾂᾃᾄᾅᾆᾇᾈᾉᾊᾋᾌᾍᾎᾏᾐᾑᾒᾓᾔᾕᾖ"⟩,
   ⟨0x345, "ἧἨἩἪἫἬἭἮἯὠὡὢὣὤὥὦὧὨὩὪὫὬὭὮὯὰὴὼᾶῆῶ", "ᾗᾘᾙᾚᾛᾜᾝᾞᾟᾠᾡᾢᾣᾤᾥᾦᾧᾨᾩᾪᾫᾬᾭᾮᾯᾲῂῲᾷῇῷ"⟩,
   ⟨0x653, "\u0627", "\u0622"⟩,
   ⟨0x654, "\u0627\u0648\u064a\u06c1\u06d2\u06d5", "\u0623\u0624\u0626\u06c2\u06d3\u06c0"⟩,
   ⟨0x655, "\u0627", "\u0625"⟩, ⟨0x93C, "नरळ", "ऩऱऴ"⟩, ⟨0x9BE, "\u09c7", "\u09cb"⟩,
   ⟨0x9D7, "\u09c7", "\u09cc"⟩, ⟨0xB3E, "\u0b47", "\u0b4b"⟩, ⟨0xB56, "\u0b47", "\u0b48"⟩,
   ⟨0xB57, "\u0b47", "\u0b4c"⟩, ⟨0xBBE, "\u0bc6\u0bc7", "\u0bca\u0bcb"⟩,
   ⟨0xBD7, "ஒ\u0bc6", "ஔ\u0bcc"⟩, ⟨0xC56, "\u0c46", "\u0c48"⟩, ⟨0xCC2, "\u0cc6", "\u0cca"⟩,
   ⟨0xCD5, "\u0cbf\u0cc6\u0cca", "\u0cc0\u0cc7\u0ccb"⟩, ⟨0xCD6, "\u0cc6", "\u0cc8"⟩,
   ⟨0xD3E, "\u0d46\u0d47", "\u0d4a\u0d4b"⟩, ⟨0xD57, "\u0d46", "\u0d4c"⟩,
   ⟨0xDCA, "\u0dd9\u0ddc", "\u0dda\u0ddd"⟩, ⟨0xDCF, "\u0dd9", "\u0ddc"⟩,
   ⟨0xDDF, "\u0dd9", "\u0dde"⟩, ⟨0x102E, "ဥ", "ဦ"⟩,
   ⟨0x1B35, "ᬅᬇᬉᬋᬍᬑ\u1b3a\u1b3c\u1b3e\u1b3f\u1b42", "ᬆᬈᬊᬌᬎᬒ\u1b3b\u1b3d\u1b40\u1b41\u1b43"⟩,
   ⟨0x3099, "うかきくけこさしすせそたちつてとはひふへほ\u309dウカ", "ゔがぎぐげござじずぜぞだぢづでどばびぶべぼ\u309eヴガ"⟩,
   ⟨0x3099, "キクケコサシスセソタチツテトハヒフヘホワヰヱヲ\u30fd", "ギグゲゴザジズゼゾダヂヅデドバビブベボヷヸヹヺ\u30fe"⟩,
   ⟨0x309A, "はひふへほハヒフヘホ", "ぱぴぷぺぽパピプペポ"⟩]

/-- All other composites, as the code points of the mark, of the base and of the whole. -/
def longComposites : List (Nat × Nat × Nat) :=
  [
   (0x307, 0x105D2, 0x105C9), (0x307, 0x105DA, 0x105E4), (0x110BA, 0x11099, 0x1109A),
   (0x110BA, 0x1109B, 0x1109C), (0x110BA, 0x110A5, 0x110AB), (0x11127, 0x11131, 0x1112E),
   (0x11127, 0x11132, 0x1112F), (0x1133E, 0x11347, 0x1134B), (0x11357, 0x11347, 0x1134C),
   (0x113B8, 0x113C2, 0x113C7), (0x113BB, 0x11384, 0x11385), (0x113C2, 0x1138B, 0x1138E),
   (0x113C2, 0x113C2, 0x113C5), (0x113C9, 0x11382, 0x11383), (0x113C9, 0x11390, 0x11391),
   (0x113C9, 0x113C2, 0x113C8), (0x114B0, 0x114B9, 0x114BC), (0x114BA, 0x114B9, 0x114BB),
   (0x114BD, 0x114B9, 0x114BE), (0x115AF, 0x115B8, 0x115BA), (0x115AF, 0x115B9, 0x115BB),
   (0x11930, 0x11935, 0x11938), (0x1611E, 0x1611E, 0x16121), (0x1611F, 0x1611E, 0x16123),
   (0x1611F, 0x16121, 0x16126), (0x1611F, 0x16122, 0x16127), (0x1611F, 0x16129, 0x16124),
   (0x16120, 0x1611E, 0x16125), (0x16120, 0x16121, 0x16128), (0x16129, 0x1611E, 0x16122),
   (0x16D67, 0x16D63, 0x16D69), (0x16D67, 0x16D67, 0x16D68), (0x16D67, 0x16D69, 0x16D6A)]

/-- All composites that are not syllables of Hangul. -/
def composites : List Composite :=
  compositeRows.flatMap CompositeRow.composites ++
    longComposites.map fun (mark, base, whole) =>
      ⟨Char.ofNat base, Char.ofNat mark, Char.ofNat whole⟩

/-- The code point of the first leading consonant, of which there are nineteen. -/
def firstLeading : Nat := 0x1100

/-- The code point of the first vowel, of which there are twenty-one. -/
def firstVowel : Nat := 0x1161

/-- The code point in front of the first trailing consonant; there are twenty-seven of them, and
the number zero stands for none. -/
def noTrailing : Nat := 0x11A7

/-- The code point of the first syllable. -/
def firstSyllable : Nat := 0xAC00

/-- The syllable of a leading consonant and a vowel, or of such a syllable and a trailing
consonant. -/
def composeSyllable? (first second : Nat) : Option Nat :=
  if firstLeading ≤ first && first < firstLeading + 19 && firstVowel ≤ second &&
      second < firstVowel + 21 then
    some (firstSyllable + ((first - firstLeading) * 21 + (second - firstVowel)) * 28)
  else if firstSyllable ≤ first && first < firstSyllable + 11172 &&
      (first - firstSyllable) % 28 == 0 && noTrailing < second && second < noTrailing + 28 then
    some (first + (second - noTrailing))
  else none

/-- The two parts of a syllable. -/
def decomposeSyllable? (syllable : Nat) : Option (Nat × Nat) :=
  if firstSyllable ≤ syllable && syllable < firstSyllable + 11172 then
    let number := syllable - firstSyllable
    if number % 28 == 0 then
      some (firstLeading + number / 588, firstVowel + number / 28 % 21)
    else some (syllable - number % 28, noTrailing + number % 28)
  else none

/-- The character that two characters make together. Nothing is made with an ASCII character in
the second place. -/
def compose? (first second : Char) : Option Char :=
  if isAscii second then none
  else match composeSyllable? first.toNat second.toNat with
    | some syllable => some (Char.ofNat syllable)
    | none =>
        (composites.find? fun entry => entry.mark == second && entry.base == first).map (·.whole)

/-- The two characters that a character is put together from. No ASCII character is. -/
def decompose? (c : Char) : Option (Char × Char) :=
  if isAscii c then none
  else match decomposeSyllable? c.toNat with
    | some (first, second) => some (Char.ofNat first, Char.ofNat second)
    | none => (composites.find? (·.whole == c)).map fun entry => (entry.base, entry.mark)

end BatchLens.Unicode
