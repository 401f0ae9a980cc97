import ChatTelemetry.Text.CombiningClass
/-!
The composed form of a text: characters are joined with the marks on them as far as there is one
character for both.

A text is taken apart, its marks are put in order and it is put together again.
-/

namespace ChatTelemetry.Text

/-- Marks with characters that they can be joined to, each followed by what it becomes. -/
def composites : List (Nat × String) := [
  (0x300, "aàeèiìoòuùüǜnǹеѐиѝēḕōṑwẁâầăằêềôồơờưừyỳἀἂἁἃἐἒἑἓἠἢἡἣἰἲἱἳὀὂὁὃὐὒὑὓὠὢὡὣαὰεὲηὴιὶοὸυὺωὼϊῒϋῢ"),
  (0x301, "aáeéiíoóuúyýcćlĺnńrŕsśzźüǘgǵåǻæǽøǿϊΐαάεέηήιίϋΰοόυύωώгѓкќçḉēḗïḯkḱmḿõṍōṓpṕũṹwẃâấăắêếôố"),
  (0x301, "ơớưứἀἄἁἅἐἔἑἕἠἤἡἥἰἴἱἵὀὄὁὅὐὔὑὕὠὤὡὥ"),
  (0x302, "aâeêiîoôuûcĉgĝhĥjĵsŝwŵyŷzẑạậẹệọộ"),
  (0x303, "aãnñoõiĩuũvṽâẫăẵeẽêễôỗơỡưữyỹ"),
  (0x304, "aāeēiīoōuūüǖäǟȧǡæǣǫǭöȫõȭȯȱyȳиӣуӯgḡḷḹṛṝαᾱιῑυῡ"),
  (0x306, "aăeĕgğiĭoŏuŭийуўжӂаӑеӗȩḝạặαᾰιῐυῠ"),
  (0x307, "cċeėgġzżaȧoȯbḃdḋfḟhḣmṁnṅpṗrṙsṡśṥšṧṣṩtṫwẇxẋyẏ𐗒𐗉𐗚𐗤"),
  (0x308, "aäeëiïoöuüyÿιϊυϋеёіїаӓәӛжӝзӟиӥоӧөӫэӭуӱчӵыӹhḧõṏūṻwẅxẍtẗ"),
  (0x309, "aảâẩăẳeẻêểiỉoỏôổơởuủưửyỷ"),
  (0x30a, "aåuůwẘyẙ"),
  (0x30b, "oőuűуӳ"),
  (0x30c, "cčdďeělľnňrřsštťzžaǎiǐoǒuǔüǚgǧkǩʒǯjǰhȟ"),
  (0x30f, "aȁeȅiȉoȍrȑuȕѵѷ"),
  (0x311, "aȃeȇiȋoȏrȓuȗ"),
  (0x313, "αἀεἐηἠιἰοὀυὐωὠρῤ"),
  (0x314, "αἁεἑηἡιἱοὁυὑωὡρῥ"),
  (0x31b, "oơuư"),
  (0x323, "bḅdḍhḥkḳlḷmṃnṇrṛsṣtṭvṿwẉzẓaạeẹiịoọơợuụưựyỵ"),
  (0x324, "uṳ"),
  (0x325, "aḁ"),
  (0x326, "sștț"),
  (0x327, "cçgģkķlļnņrŗsştţeȩdḑhḩ"),
  (0x328, "aąeęiįuųoǫ"),
  (0x32d, "dḓeḙlḽnṋtṱuṷ"),
  (0x32e, "hḫ"),
  (0x330, "eḛiḭuṵ"),
  (0x331, "bḇdḏkḵlḻnṉrṟtṯzẕhẖ"),
  (0x338, "←↚→↛↔↮⇐⇍⇔⇎⇒⇏∃∄∈∉∋∌∣∤∥∦∼≁≃≄≅≇≈≉=≠≡≢≍≭<≮>≯≤≰≥≱≲≴≳≵≶≸≷≹≺⊀≻⊁⊂⊄⊃⊅⊆⊈⊇⊉⊢⊬⊨⊭⊩⊮⊫⊯≼⋠≽⋡⊑⋢⊒⋣⊲⋪⊳⋫"),
  (0x338, "⊴⋬⊵⋭"),
  (0x342, "ἀἆἁἇἠἦἡἧἰἶἱἷὐὖὑὗὠὦὡὧαᾶηῆιῖϊῗυῦϋῧωῶ"),
  (0x653, "\u0627\u0622"),
  (0x654, "\u0627\u0623\u0648\u0624\u064a\u0626\u06d5\u06c0\u06c1\u06c2\u06d2\u06d3"),
  (0x655, "\u0627\u0625"),
  (0x93c, "नऩरऱळऴ"),
  (0x9be, "\u09c7\u09cb"),
  (0x9d7, "\u09c7\u09cc"),
  (0xb3e, "\u0b47\u0b4b"),
  (0xb56, "\u0b47\u0b48"),
  (0xb57, "\u0b47\u0b4c"),
  (0xbbe, "\u0bc6\u0bca\u0bc7\u0bcb"),
  (0xbd7, "ஒஔ\u0bc6\u0bcc"),
  (0xc56, "\u0c46\u0c48"),
  (0xcc2, "\u0cc6\u0cca"),
  (0xcd5, "\u0cbf\u0cc0\u0cc6\u0cc7\u0cca\u0ccb"),
  (0xcd6, "\u0cc6\u0cc8"),
  (0xd3e, "\u0d46\u0d4a\u0d47\u0d4b"),
  (0xd57, "\u0d46\u0d4c"),
  (0xdca, "\u0dd9\u0dda\u0ddc\u0ddd"),
  (0xdcf, "\u0dd9\u0ddc"),
  (0xddf, "\u0dd9\u0dde"),
  (0x102e, "ဥဦ"),
  (0x1b35, "ᬅᬆᬇᬈᬉᬊᬋᬌᬍᬎᬑᬒ\u1b3a\u1b3b\u1b3c\u1b3d\u1b3e\u1b40\u1b3f\u1b41\u1b42\u1b43"),
  (0x3099, "かがきぎくぐけげこごさざしじすずせぜそぞただちぢつづてでとどはばひびふぶへべほぼ"),
  (0x3099, "うゔゝゞカガキギクグケゲコゴサザシジスズセゼソゾタダチヂツヅテデトドハバヒビフブ"),
  (0x3099, "ヘベホボウヴワヷヰヸヱヹヲヺヽヾ"),
  (0x309a, "はぱひぴふぷへぺほぽハパヒピフプヘペホポ"),
  (0x110ba, "𑂙𑂚𑂛𑂜𑂥𑂫"),
  (0x11127, "𑄱𑄮𑄲𑄯"),
  (0x1133e, "𑍇𑍋"),
  (0x11357, "𑍇𑍌"),
  (0x113b8, "𑏅𑎸"),
  (0x113bb, "𑎄𑎅"),
  (0x113c2, "𑎋𑎎𑏅𑏂"),
  (0x113c9, "𑎂𑎃𑎐𑎑𑏅𑏉"),
  (0x114b0, "𑒹𑒼"),
  (0x114ba, "𑒹𑒻"),
  (0x114bd, "𑒹𑒾"),
  (0x115af, "𑖸𑖺𑖹𑖻"),
  (0x11930, "𑤵𑤸"),
  (0x1611e, "𖄡𖄞"),
  (0x1611f, "𖄦𖄩𖄤𖄡𖄦𖄢𖄧"),
  (0x16120, "𖄨𖄡𖄨"),
  (0x16129, "𖄡𖄩"),
  (0x16d67, "𖵨𖵧𖵣𖵩𖵩𖵪") ]

/-- The pairs that are written one after the other. -/
def pairs : List Char → List (Char × Char)
  | a :: b :: rest => (a, b) :: pairs rest
  | _ => []

/--
The one character for a syllable's beginning and what follows it, or for a character and a mark.
-/
def joined? (a b : Char) : Option Char :=
  let m := a.toNat
  let n := b.toNat
  if 0x1100 ≤ m && m < 0x1113 && 0x1161 ≤ n && n < 0x1176 then
    some (.ofNat (0xac00 + ((m - 0x1100) * 21 + (n - 0x1161)) * 28))
  else if 0xac00 ≤ m && m < 0xd7a4 && (m - 0xac00) % 28 == 0 && 0x11a8 ≤ n && n < 0x11c3 then
    some (.ofNat (m + (n - 0x11a7)))
  else
    composites.findSome? fun (mark, row) => if mark == n then (pairs row.toList).lookup a else none

def split? (c : Char) : Option (Char × Char) :=
  let n := c.toNat
  if n < 0xc0 then none
  else if 0xac00 ≤ n && n < 0xd7a4 then
    let i := n - 0xac00
    if i % 28 == 0 then some (.ofNat (0x1100 + i / 28 / 21), .ofNat (0x1161 + i / 28 % 21))
    else some (.ofNat (n - i % 28), .ofNat (0x11a7 + i % 28))
  else
    composites.findSome? fun (mark, row) =>
      ((pairs row.toList).find? (·.2 == c)).map fun (a, _) => (a, .ofNat mark)

/-- A character taken apart, at most `depth` times. -/
def decomposedChar : (depth : Nat) → Char → List Char
  | 0, c => [c]
  | depth + 1, c =>
    match split? c with
    | none => [c]
    | some (a, mark) => decomposedChar depth a ++ [mark]

/-- Puts a character before a text whose marks are in order, or after marks of a lower class. -/
def insertOrdered (c : Char) : List Char → List Char
  | [] => [c]
  | d :: rest =>
    if combiningClass d != 0 && combiningClass d < combiningClass c then d :: insertOrdered c rest
    else c :: d :: rest

/-- The text taken apart, its marks in order; no character is composed more than four deep. -/
def decomposed (cs : List Char) : List Char :=
  (cs.flatMap (decomposedChar 4)).foldr insertOrdered []

/--
Puts together what follows a character: a mark joins it unless one of the same class or a higher one
stands between them. `between` holds what stands there, in reverse.
-/
def composedAfter (start : Char) (between : List Char) : List Char → List Char
  | [] => start :: between.reverse
  | c :: cs =>
    let k := combiningClass c
    let isOpen := match between with
      | [] => true
      | d :: _ => combiningClass d < k
    match if isOpen then joined? start c else none with
    | some p => composedAfter p between cs
    | none =>
      if k == 0 then start :: (between.reverse ++ composedAfter c [] cs)
      else composedAfter start (c :: between) cs

def composed (cs : List Char) : List Char :=
  let ds := decomposed cs
  let marks := ds.takeWhile fun c => combiningClass c != 0
  match ds.drop marks.length with
  | [] => marks
  | c :: rest => marks ++ composedAfter c [] rest

end ChatTelemetry.Text
