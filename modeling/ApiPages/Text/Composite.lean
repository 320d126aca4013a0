/-
# Composite characters

Many letters with a mark exist twice: as one character, and as the letter followed by the
mark.  The tables say which letter and mark make which character.  They hold the characters that a
composed text prefers to their parts; a part may itself be composite.
-/
namespace ApiPages.Text

/-! ## 1. Tables -/

/-- For each mark, texts in which every letter is followed by what it makes with the mark. -/
def compositesOfMark : List (Nat × String) :=
  [
    (0x300, "AÀEÈIÌOÒUÙaàeèiìoòuùÜǛüǜNǸnǹЕЀИЍеѐиѝĒḔēḕŌṐōṑWẀwẁÂẦâầĂẰăằÊỀêềÔỒôồƠỜơờƯỪưừYỲyỳἀἂἁἃ"),
    (0x300, "ἈἊἉἋἐἒἑἓἘἚἙἛἠἢἡἣἨἪἩἫἰἲἱἳἸἺἹἻὀὂὁὃὈὊὉὋὐὒὑὓὙὛὠὢὡὣὨὪὩὫαὰεὲηὴιὶοὸυὺωὼΑᾺΕῈΗῊ᾿῍ϊῒΙῚ῾῝ϋῢ"),
    (0x300, "ΥῪ¨῭ΟῸΩῺ"),
    (0x301, "AÁEÉIÍOÓUÚYÝaáeéiíoóuúyýCĆcćLĹlĺNŃnńRŔrŕSŚsśZŹzźÜǗüǘGǴgǵÅǺåǻÆǼæǽØǾøǿ¨΅ΑΆΕΈΗΉΙΊΟΌ"),
    (0x301, "ΥΎΩΏϊΐαάεέηήιίϋΰοόυύωώϒϓГЃКЌгѓкќÇḈçḉĒḖēḗÏḮïḯKḰkḱMḾmḿÕṌõṍŌṒōṓPṔpṕŨṸũṹWẂwẃÂẤâấĂẮăắ"),
    (0x301, "ÊẾêếÔỐôốƠỚơớƯỨưứἀἄἁἅἈἌἉἍἐἔἑἕἘἜἙἝἠἤἡἥἨἬἩἭἰἴἱἵἸἼἹἽὀὄὁὅὈὌὉὍὐὔὑὕὙὝὠὤὡὥὨὬὩὭ᾿῎῾῞"),
    (0x302, "AÂEÊIÎOÔUÛaâeêiîoôuûCĈcĉGĜgĝHĤhĥJĴjĵSŜsŝWŴwŵYŶyŷZẐzẑẠẬạậẸỆẹệỌỘọộ"),
    (0x303, "AÃNÑOÕaãnñoõIĨiĩUŨuũVṼvṽÂẪâẫĂẴăẵEẼeẽÊỄêễÔỖôỗƠỠơỡƯỮưữYỸyỹ"),
    (0x304, "AĀaāEĒeēIĪiīOŌoōUŪuūÜǕüǖÄǞäǟȦǠȧǡÆǢæǣǪǬǫǭÖȪöȫÕȬõȭȮȰȯȱYȲyȳИӢиӣУӮуӯGḠgḡḶḸḷḹṚṜṛṝαᾱΑᾹ"),
    (0x304, "ιῑΙῙυῡΥῩ"),
    (0x306, "AĂaăEĔeĕGĞgğIĬiĭOŎoŏUŬuŭУЎИЙийуўЖӁжӂАӐаӑЕӖеӗȨḜȩḝẠẶạặαᾰΑᾸιῐΙῘυῠΥῨ"),
    (0x307, "CĊcċEĖeėGĠgġIİZŻzżAȦaȧOȮoȯBḂbḃDḊdḋFḞfḟHḢhḣMṀmṁNṄnṅPṖpṗRṘrṙSṠsṡŚṤśṥŠṦšṧṢṨṣṩTṪtṫWẆ"),
    (0x307, "wẇXẊxẋYẎyẏſẛ"),
    (0x308, "AÄEËIÏOÖUÜaäeëiïoöuüyÿYŸΙΪΥΫιϊυϋϒϔЕЁІЇеёіїАӒаӓӘӚәӛЖӜжӝЗӞзӟИӤиӥОӦоӧӨӪөӫЭӬэӭУӰуӱЧӴ"),
    (0x308, "чӵЫӸыӹHḦhḧÕṎõṏŪṺūṻWẄwẅXẌxẍtẗ"),
    (0x309, "AẢaảÂẨâẩĂẲăẳEẺeẻÊỂêểIỈiỉOỎoỏÔỔôổƠỞơởUỦuủƯỬưửYỶyỷ"),
    (0x30A, "AÅaåUŮuůwẘyẙ"),
    (0x30B, "OŐoőUŰuűУӲуӳ"),
    (0x30C, "CČcčDĎdďEĚeěLĽlľNŇnňRŘrřSŠsšTŤtťZŽzžAǍaǎIǏiǐOǑoǒUǓuǔÜǙüǚGǦgǧKǨkǩƷǮʒǯjǰHȞhȟ"),
    (0x30F, "AȀaȁEȄeȅIȈiȉOȌoȍRȐrȑUȔuȕѴѶѵѷ"),
    (0x311, "AȂaȃEȆeȇIȊiȋOȎoȏRȒrȓUȖuȗ"),
    (0x313, "αἀΑἈεἐΕἘηἠΗἨιἰΙἸοὀΟὈυὐωὠΩὨρῤ"),
    (0x314, "αἁΑἉεἑΕἙηἡΗἩιἱΙἹοὁΟὉυὑΥὙωὡΩὩρῥΡῬ"),
    (0x31B, "OƠoơUƯuư"),
    (0x323, "BḄbḅDḌdḍHḤhḥKḲkḳLḶlḷMṂmṃNṆnṇRṚrṛSṢsṣTṬtṭVṾvṿWẈwẉZẒzẓAẠaạEẸeẹIỊiịOỌoọƠỢơợUỤuụƯỰưự"),
    (0x323, "YỴyỵ"),
    (0x326, "SȘsșTȚtț"),
    (0x327, "CÇcçGĢgģKĶkķLĻlļNŅnņRŖrŗSŞsşTŢtţEȨeȩDḐdḑHḨhḩ"),
    (0x328, "AĄaąEĘeęIĮiįUŲuųOǪoǫ"),
    (0x32D, "DḒdḓEḘeḙLḼlḽNṊnṋTṰtṱUṶuṷ"),
    (0x330, "EḚeḛIḬiḭUṴuṵ"),
    (0x331, "BḆbḇDḎdḏKḴkḵLḺlḻNṈnṉRṞrṟTṮtṯZẔzẕhẖ"),
    (0x338, "←↚→↛↔↮⇐⇍⇔⇎⇒⇏∃∄∈∉∋∌∣∤∥∦∼≁≃≄≅≇≈≉=≠≡≢≍≭<≮>≯≤≰≥≱≲≴≳≵≶≸≷≹≺⊀≻⊁⊂⊄⊃⊅⊆⊈⊇⊉⊢⊬⊨⊭⊩⊮⊫⊯≼⋠≽⋡⊑⋢⊒⋣"),
    (0x338, "⊲⋪⊳⋫⊴⋬⊵⋭"),
    (0x342, "ἀἆἁἇἈἎἉἏἠἦἡἧἨἮἩἯἰἶἱἷἸἾἹἿὐὖὑὗὙὟὠὦὡὧὨὮὩὯαᾶ¨῁ηῆ᾿῏ιῖϊῗ῾῟υῦϋῧωῶ"),
    (0x345, "ἀᾀἁᾁἂᾂἃᾃἄᾄἅᾅἆᾆἇᾇἈᾈἉᾉἊᾊἋᾋἌᾌἍᾍἎᾎἏᾏἠᾐἡᾑἢᾒἣᾓἤᾔἥᾕἦᾖἧᾗἨᾘἩᾙἪᾚἫᾛἬᾜἭᾝἮᾞἯᾟὠᾠὡᾡὢᾢὣᾣὤᾤὥᾥὦᾦὧᾧ"),
    (0x345, "ὨᾨὩᾩὪᾪὫᾫὬᾬὭᾭὮᾮὯᾯὰᾲαᾳάᾴᾶᾷΑᾼὴῂηῃήῄῆῇΗῌὼῲωῳώῴῶῷΩῼ"),
    (0x93C, "नऩरऱळऴ"),
    (0x1B35, "ᬅᬆᬇᬈᬉᬊᬋᬌᬍᬎᬑᬒ"),
    (0x3099, "かがきぎくぐけげこごさざしじすずせぜそぞただちぢつづてでとどはばひびふぶへべほぼ"),
    (0x3099, "うゔゝゞカガキギクグケゲコゴサザシジスズセゼソゾタダチヂツヅテデトドハバヒビフブ"),
    (0x3099, "ヘベホボウヴワヷヰヸヱヹヲヺヽヾ"),
    (0x309A, "はぱひぴふぷへぺほぽハパヒピフプヘペホポ")]

/-- Further composites: the letter, the mark, and what they make. -/
def furtherComposites : List (Nat × Nat × Nat) :=
  [
    (0x627, 0x653, 0x622), (0x627, 0x654, 0x623), (0x648, 0x654, 0x624), (0x627, 0x655, 0x625),
    (0x64A, 0x654, 0x626), (0x6D5, 0x654, 0x6C0), (0x6C1, 0x654, 0x6C2), (0x6D2, 0x654, 0x6D3),
    (0x9C7, 0x9BE, 0x9CB), (0x9C7, 0x9D7, 0x9CC), (0xB47, 0xB56, 0xB48), (0xB47, 0xB3E, 0xB4B),
    (0xB47, 0xB57, 0xB4C), (0xB92, 0xBD7, 0xB94), (0xBC6, 0xBBE, 0xBCA), (0xBC7, 0xBBE, 0xBCB),
    (0xBC6, 0xBD7, 0xBCC), (0xC46, 0xC56, 0xC48), (0xCBF, 0xCD5, 0xCC0), (0xCC6, 0xCD5, 0xCC7),
    (0xCC6, 0xCD6, 0xCC8), (0xCC6, 0xCC2, 0xCCA), (0xCCA, 0xCD5, 0xCCB), (0xD46, 0xD3E, 0xD4A),
    (0xD47, 0xD3E, 0xD4B), (0xD46, 0xD57, 0xD4C), (0xDD9, 0xDCA, 0xDDA), (0xDD9, 0xDCF, 0xDDC),
    (0xDDC, 0xDCA, 0xDDD), (0xDD9, 0xDDF, 0xDDE), (0x1025, 0x102E, 0x1026),
    (0x1B3A, 0x1B35, 0x1B3B), (0x1B3C, 0x1B35, 0x1B3D), (0x1B3E, 0x1B35, 0x1B40),
    (0x1B3F, 0x1B35, 0x1B41), (0x1B42, 0x1B35, 0x1B43), (0x41, 0x325, 0x1E00),
    (0x61, 0x325, 0x1E01), (0x48, 0x32E, 0x1E2A), (0x68, 0x32E, 0x1E2B), (0x55, 0x324, 0x1E72),
    (0x75, 0x324, 0x1E73), (0x105D2, 0x307, 0x105C9), (0x105DA, 0x307, 0x105E4),
    (0x11099, 0x110BA, 0x1109A), (0x1109B, 0x110BA, 0x1109C), (0x110A5, 0x110BA, 0x110AB),
    (0x11131, 0x11127, 0x1112E), (0x11132, 0x11127, 0x1112F), (0x11347, 0x1133E, 0x1134B),
    (0x11347, 0x11357, 0x1134C), (0x11382, 0x113C9, 0x11383), (0x11384, 0x113BB, 0x11385),
    (0x1138B, 0x113C2, 0x1138E), (0x11390, 0x113C9, 0x11391), (0x113C2, 0x113C2, 0x113C5),
    (0x113C2, 0x113B8, 0x113C7), (0x113C2, 0x113C9, 0x113C8), (0x114B9, 0x114BA, 0x114BB),
    (0x114B9, 0x114B0, 0x114BC), (0x114B9, 0x114BD, 0x114BE), (0x115B8, 0x115AF, 0x115BA),
    (0x115B9, 0x115AF, 0x115BB), (0x11935, 0x11930, 0x11938), (0x1611E, 0x1611E, 0x16121),
    (0x1611E, 0x16129, 0x16122), (0x1611E, 0x1611F, 0x16123), (0x16129, 0x1611F, 0x16124),
    (0x1611E, 0x16120, 0x16125), (0x16121, 0x1611F, 0x16126), (0x16122, 0x1611F, 0x16127),
    (0x16121, 0x16120, 0x16128), (0x16D67, 0x16D67, 0x16D68), (0x16D63, 0x16D67, 0x16D69),
    (0x16D69, 0x16D67, 0x16D6A)]

/-! ## 2. The triples of the tables -/

/-- Letters and composites in turn, as triples with the mark. -/
def triplesOf (mark : Char) : List Char → List (Char × Char × Char)
  | letter :: composite :: rest => (letter, mark, composite) :: triplesOf mark rest
  | _ => []

/-- **All composites**: the letter, the mark, and what they make. -/
def composites : List (Char × Char × Char) :=
  (compositesOfMark.flatMap fun (mark, text) => triplesOf (Char.ofNat mark) text.toList)
    ++ furtherComposites.map fun (letter, mark, composite) =>
      (Char.ofNat letter, Char.ofNat mark, Char.ofNat composite)

end ApiPages.Text
