import LuaStubs.Text.CombiningClass

/-! The composed form of text: marks in the order of their classes, and every letter with a mark as
one character where there is one.  Syllables of Hangul are composed by arithmetic. -/
namespace LuaStubs.Text.Composition

open CombiningClass (classOf)

/-- The second of two characters, and each first one followed by the character that both make. -/
def rows : Array (Nat × String) := #[
  (0x300, "AÀEÈIÌNǸOÒUÙWẀYỲaàeèiìnǹoòuùwẁyỳ¨῭ÂẦÊỀÔỒÜǛâầêềôồüǜĂẰăằĒḔēḕŌṐōṑƠỜơờƯỪưừΑᾺ"),
  (0x300, "ΕῈΗῊΙῚΟῸΥῪΩῺαὰεὲηὴιὶοὸυὺωὼϊῒϋῢЕЀИЍеѐиѝἀἂἁἃἈἊἉἋἐἒἑἓἘἚἙἛἠἢἡἣἨἪἩἫἰἲἱἳἸἺἹἻὀὂ"),
  (0x300, "ὁὃὈὊὉὋὐὒὑὓὙὛὠὢὡὣὨὪὩὫ᾿῍῾῝"),
  (0x301, "AÁCĆEÉGǴIÍKḰLĹMḾNŃOÓPṔRŔSŚUÚWẂYÝZŹaácćeégǵiíkḱlĺmḿnńoópṕrŕsśuúwẃyýzź¨΅ÂẤ"),
  (0x301, "ÅǺÆǼÇḈÊẾÏḮÔỐÕṌØǾÜǗâấåǻæǽçḉêếïḯôốõṍøǿüǘĂẮăắĒḖēḗŌṒōṓŨṸũṹƠỚơớƯỨưứΑΆΕΈΗΉΙΊΟΌ"),
  (0x301, "ΥΎΩΏαάεέηήιίοόυύωώϊΐϋΰϒϓГЃКЌгѓкќἀἄἁἅἈἌἉἍἐἔἑἕἘἜἙἝἠἤἡἥἨἬἩἭἰἴἱἵἸἼἹἽὀὄὁὅὈὌὉὍ"),
  (0x301, "ὐὔὑὕὙὝὠὤὡὥὨὬὩὭ᾿῎῾῞"),
  (0x302, "AÂCĈEÊGĜHĤIÎJĴOÔSŜUÛWŴYŶZẐaâcĉeêgĝhĥiîjĵoôsŝuûwŵyŷzẑẠẬạậẸỆẹệỌỘọộ"),
  (0x303, "AÃEẼIĨNÑOÕUŨVṼYỸaãeẽiĩnñoõuũvṽyỹÂẪÊỄÔỖâẫêễôỗĂẴăẵƠỠơỡƯỮưữ"),
  (0x304, "AĀEĒGḠIĪOŌUŪYȲaāeēgḡiīoōuūyȳÄǞÆǢÕȬÖȪÜǕäǟæǣõȭöȫüǖǪǬǫǭȦǠȧǡȮȰȯȱΑᾹΙῙΥῩαᾱιῑυῡ"),
  (0x304, "ИӢУӮиӣуӯḶḸḷḹṚṜṛṝ"),
  (0x306, "AĂEĔGĞIĬOŎUŬaăeĕgğiĭoŏuŭȨḜȩḝΑᾸΙῘΥῨαᾰιῐυῠАӐЕӖЖӁИЙУЎаӑеӗжӂийуўẠẶạặ"),
  (0x307, "AȦBḂCĊDḊEĖFḞGĠHḢIİMṀNṄOȮPṖRṘSṠTṪWẆXẊYẎZŻaȧbḃcċdḋeėfḟgġhḣmṁnṅoȯpṗrṙsṡtṫwẇ"),
  (0x307, "xẋyẏzżŚṤśṥŠṦšṧſẛṢṨṣṩ𐗒𐗉𐗚𐗤"),
  (0x308, "AÄEËHḦIÏOÖUÜWẄXẌYŸaäeëhḧiïoötẗuüwẅxẍyÿÕṎõṏŪṺūṻΙΪΥΫιϊυϋϒϔІЇАӒЕЁЖӜЗӞИӤОӦУӰ"),
  (0x308, "ЧӴЫӸЭӬаӓеёжӝзӟиӥоӧуӱчӵыӹэӭіїӘӚәӛӨӪөӫ"),
  (0x309, "AẢEẺIỈOỎUỦYỶaảeẻiỉoỏuủyỷÂẨÊỂÔỔâẩêểôổĂẲăẳƠỞơởƯỬưử"),
  (0x30a, "AÅUŮaåuůwẘyẙ"),
  (0x30b, "OŐUŰoőuűУӲуӳ"),
  (0x30c, "AǍCČDĎEĚGǦHȞIǏKǨLĽNŇOǑRŘSŠTŤUǓZŽaǎcčdďeěgǧhȟiǐjǰkǩlľnňoǒrřsštťuǔzžÜǙüǚƷǮ"),
  (0x30c, "ʒǯ"),
  (0x30f, "AȀEȄIȈOȌRȐUȔaȁeȅiȉoȍrȑuȕѴѶѵѷ"),
  (0x311, "AȂEȆIȊOȎRȒUȖaȃeȇiȋoȏrȓuȗ"),
  (0x313, "ΑἈΕἘΗἨΙἸΟὈΩὨαἀεἐηἠιἰοὀρῤυὐωὠ"),
  (0x314, "ΑἉΕἙΗἩΙἹΟὉΡῬΥὙΩὩαἁεἑηἡιἱοὁρῥυὑωὡ"),
  (0x31b, "OƠUƯoơuư"),
  (0x323, "AẠBḄDḌEẸHḤIỊKḲLḶMṂNṆOỌRṚSṢTṬUỤVṾWẈYỴZẒaạbḅdḍeẹhḥiịkḳlḷmṃnṇoọrṛsṣtṭuụvṿwẉ"),
  (0x323, "yỵzẓƠỢơợƯỰưự"),
  (0x324, "UṲuṳ"),
  (0x325, "AḀaḁ"),
  (0x326, "SȘTȚsștț"),
  (0x327, "CÇDḐEȨGĢHḨKĶLĻNŅRŖSŞTŢcçdḑeȩgģhḩkķlļnņrŗsştţ"),
  (0x328, "AĄEĘIĮOǪUŲaąeęiįoǫuų"),
  (0x32d, "DḒEḘLḼNṊTṰUṶdḓeḙlḽnṋtṱuṷ"),
  (0x32e, "HḪhḫ"),
  (0x330, "EḚIḬUṴeḛiḭuṵ"),
  (0x331, "BḆDḎKḴLḺNṈRṞTṮZẔbḇdḏhẖkḵlḻnṉrṟtṯzẕ"),
  (0x338, "<≮=≠>≯←↚→↛↔↮⇐⇍⇒⇏⇔⇎∃∄∈∉∋∌∣∤∥∦∼≁≃≄≅≇≈≉≍≭≡≢≤≰≥≱≲≴≳≵≶≸≷≹≺⊀≻⊁≼⋠≽⋡⊂⊄⊃⊅⊆⊈⊇⊉⊑⋢⊒⋣"),
  (0x338, "⊢⊬⊨⊭⊩⊮⊫⊯⊲⋪⊳⋫⊴⋬⊵⋭"),
  (0x342, "¨῁αᾶηῆιῖυῦωῶϊῗϋῧἀἆἁἇἈἎἉἏἠἦἡἧἨἮἩἯἰἶἱἷἸἾἹἿὐὖὑὗὙὟὠὦὡὧὨὮὩὯ᾿῏῾῟"),
  (0x345, "ΑᾼΗῌΩῼάᾴήῄαᾳηῃωῳώῴἀᾀἁᾁἂᾂἃᾃἄᾄἅᾅἆᾆἇᾇἈᾈἉᾉἊᾊἋᾋἌᾌἍᾍἎᾎἏᾏἠᾐἡᾑἢᾒἣᾓἤᾔἥᾕἦᾖἧᾗἨᾘἩᾙἪᾚ"),
  (0x345, "ἫᾛἬᾜἭᾝἮᾞἯᾟὠᾠὡᾡὢᾢὣᾣὤᾤὥᾥὦᾦὧᾧὨᾨὩᾩὪᾪὫᾫὬᾬὭᾭὮᾮὯᾯὰᾲὴῂὼῲᾶᾷῆῇῶῷ"),
  (0x653, "اآ"),
  (0x654, "اأوؤيئہۂےۓەۀ"),
  (0x655, "اإ"),
  (0x93c, "नऩरऱळऴ"),
  (0x9be, "েো"),
  (0x9d7, "েৌ"),
  (0xb3e, "େୋ"),
  (0xb56, "େୈ"),
  (0xb57, "େୌ"),
  (0xbbe, "ெொேோ"),
  (0xbd7, "ஒஔெௌ"),
  (0xc56, "ెై"),
  (0xcc2, "ೆೊ"),
  (0xcd5, "ಿೀೆೇೊೋ"),
  (0xcd6, "ೆೈ"),
  (0xd3e, "െൊേോ"),
  (0xd57, "െൌ"),
  (0xdca, "ෙේොෝ"),
  (0xdcf, "ෙො"),
  (0xddf, "ෙෞ"),
  (0x102e, "ဥဦ"),
  (0x1b35, "ᬅᬆᬇᬈᬉᬊᬋᬌᬍᬎᬑᬒᬺᬻᬼᬽᬾᭀᬿᭁᭂᭃ"),
  (0x3099, "うゔかがきぎくぐけげこごさざしじすずせぜそぞただちぢつづてでとどはばひびふぶへべほぼゝゞウヴカガキギクグケゲコゴサザシジスズセゼソゾタダチヂツヅ"),
  (0x3099, "テデトドハバヒビフブヘベホボワヷヰヸヱヹヲヺヽヾ"),
  (0x309a, "はぱひぴふぷへぺほぽハパヒピフプヘペホポ"),
  (0x110ba, "𑂙𑂚𑂛𑂜𑂥𑂫"),
  (0x11127, "𑄱𑄮𑄲𑄯"),
  (0x1133e, "𑍇𑍋"),
  (0x11357, "𑍇𑍌"),
  (0x113b8, "𑏅𑎸"),
  (0x113bb, "𑎄𑎅"),
  (0x113c2, "𑎋𑎎𑏅𑏂"),
  (0x113c9, "𑎂𑎃𑎐𑎑𑏅𑏉"),
  (0x114b0, "𑒹𑒼"),
  (0x114ba, "𑒹𑒻"),
  (0x114bd, "𑒹𑒾"),
  (0x115af, "𑖸𑖺𑖹𑖻"),
  (0x11930, "𑤵𑤸"),
  (0x1611e, "𖄡𖄞"),
  (0x1611f, "𖄦𖄡𖄦𖄢𖄧𖄩𖄤"),
  (0x16120, "𖄨𖄡𖄨"),
  (0x16129, "𖄡𖄩"),
  (0x16d67, "𖵣𖵪𖵨𖵩𖵪")]

/-- `first` and `second` make `whole`. -/
structure Pair where
  first : Char
  second : Char
  whole : Char
deriving DecidableEq, Repr

def pairsWith (second : Char) : List Char → List Pair
  | first :: whole :: rest => ⟨first, second, whole⟩ :: pairsWith second rest
  | _ => []

def pairs : List Pair := rows.toList.flatMap (fun r => pairsWith (Char.ofNat r.1) r.2.toList)

/-! ## Hangul -/

namespace Hangul

def leads : Nat := 0x1100

def vowels : Nat := 0x1161

/-- One before the first tail: a syllable may have none. -/
def tails : Nat := 0x11A7

def syllables : Nat := 0xAC00

def isSyllable (c : Char) : Bool := syllables ≤ c.toNat && c.toNat < syllables + 11172

def parts (c : Char) : List Char :=
  let n := c.toNat - syllables
  let front := [Char.ofNat (leads + n / 588), Char.ofNat (vowels + n % 588 / 28)]
  if n % 28 = 0 then front else front ++ [Char.ofNat (tails + n % 28)]

/-- A lead and a vowel, or a syllable without a tail and a tail. -/
def join? (a b : Char) : Option Char :=
  let m := a.toNat
  let n := b.toNat
  if leads ≤ m && m < leads + 19 && vowels ≤ n && n < vowels + 21 then
    some (Char.ofNat (syllables + ((m - leads) * 21 + (n - vowels)) * 28))
  else if isSyllable a && (m - syllables) % 28 = 0 && tails < n && n < tails + 28 then
    some (Char.ofNat (m + (n - tails)))
  else none

end Hangul

/-! ## Taking apart -/

/-- A character may be made of characters that are made of others, three times at most. -/
def partsOf : Nat → Char → List Char
  | 0, c => [c]
  | depth + 1, c =>
    if Hangul.isSyllable c then Hangul.parts c
    else
      match pairs.find? (fun p => p.whole = c) with
      | none => [c]
      | some p => partsOf depth p.first ++ partsOf depth p.second

/-- Puts a mark in front of those that have a higher class; the last character comes first. -/
def place (c : Char) : List Char → List Char
  | [] => [c]
  | d :: rest => if 0 < classOf c && classOf c < classOf d then d :: place c rest else c :: d :: rest

def decompose (cs : List Char) : List Char :=
  ((cs.flatMap (partsOf 4)).foldl (fun done c => place c done) []).reverse

/-! ## Putting together -/

def join? (a b : Char) : Option Char :=
  (Hangul.join? a b).or
    ((pairs.find? (fun p => p.first = a && p.second = b)).map Pair.whole)

/-- The last character of class zero, and the marks behind it that did not join it, the last one
first. -/
structure Cluster where
  base : Char
  marks : List Char

def Cluster.text (c : Cluster) : List Char := c.base :: c.marks.reverse

/-- A mark of the same class hides a character from the base. -/
def Cluster.sees (c : Cluster) (next : Char) : Bool :=
  match c.marks with
  | [] => true
  | mark :: _ => classOf mark < classOf next

def composeFrom (cluster : Cluster) : List Char → List Char
  | [] => cluster.text
  | c :: rest =>
    match if cluster.sees c then join? cluster.base c else none with
    | some whole => composeFrom { cluster with base := whole } rest
    | none =>
      if classOf c = 0 then cluster.text ++ composeFrom ⟨c, []⟩ rest
      else composeFrom { cluster with marks := c :: cluster.marks } rest

/-- Marks without a base stay as they are. -/
def compose (cs : List Char) : List Char :=
  let front := cs.takeWhile (fun c => classOf c ≠ 0)
  match cs.dropWhile (fun c => classOf c ≠ 0) with
  | [] => front
  | c :: rest => front ++ composeFrom ⟨c, []⟩ rest

/-- The composed form of a text; characters of ASCII are never part of others among themselves. -/
def normalize (cs : List Char) : List Char :=
  if cs.all (fun c => c.toNat < 128) then cs else compose (decompose cs)

end LuaStubs.Text.Composition
