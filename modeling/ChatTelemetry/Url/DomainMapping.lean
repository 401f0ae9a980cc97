import ChatTelemetry.Text.Printable
/-!
How the characters beyond ASCII of a domain name are replaced before it is looked up: letters by
their lower case, variants by the plain form, some by nothing; and which have no place in a domain
name.
-/

namespace ChatTelemetry.Url

/--
Characters that are replaced by one other each: the first of them, the distance between neighbours
and the replacements in order.
-/
def shortReplacements : List (Nat × Nat × String) := [
  (0xa0, 1, " "),
  (0xaa, 1, "a"),
  (0xb2, 1, "23"),
  (0xb5, 1, "μ"),
  (0xb9, 1, "1o"),
  (0xc0, 1, "àáâãäåæçèéêëìíîïðñòóôõö"),
  (0xd8, 1, "øùúûüýþ"),
  (0x100, 2, "āăąćĉċčďđēĕėęěĝğġģĥħĩīĭį"),
  (0x134, 2, "ĵķ"),
  (0x139, 2, "ĺļľ"),
  (0x141, 2, "łńņň"),
  (0x14a, 2, "ŋōŏőœŕŗřśŝşšţťŧũūŭůűųŵŷÿ"),
  (0x179, 2, "źżžsɓ"),
  (0x182, 2, "ƃƅɔ"),
  (0x187, 2, "ƈɖ"),
  (0x18a, 1, "ɗƌ"),
  (0x18e, 1, "ǝəɛƒ"),
  (0x193, 1, "ɠɣ"),
  (0x196, 1, "ɩɨƙ"),
  (0x19c, 1, "ɯɲ"),
  (0x19f, 1, "ɵơ"),
  (0x1a2, 2, "ƣƥʀ"),
  (0x1a7, 2, "ƨʃ"),
  (0x1ac, 2, "ƭʈ"),
  (0x1af, 2, "ưʊ"),
  (0x1b2, 1, "ʋƴ"),
  (0x1b5, 2, "ƶʒ"),
  (0x1b8, 1, "ƹ"),
  (0x1bc, 1, "ƽ"),
  (0x1cd, 2, "ǎǐǒǔǖǘǚǜ"),
  (0x1de, 2, "ǟǡǣǥǧǩǫǭǯ"),
  (0x1f4, 2, "ǵƕ"),
  (0x1f7, 1, "ƿǹ"),
  (0x1fa, 2, "ǻǽǿȁȃȅȇȉȋȍȏȑȓȕȗșțȝȟƞȣȥȧȩȫȭȯȱȳ"),
  (0x23a, 1, "ⱥȼ"),
  (0x23d, 1, "ƚⱦ"),
  (0x241, 2, "ɂƀ"),
  (0x244, 1, "ʉʌɇ"),
  (0x248, 2, "ɉɋɍɏ"),
  (0x2b0, 1, "hɦjrɹɻʁwy"),
  (0x2e0, 1, "ɣlsxʕ"),
  (0x340, 1, "\u0300\u0301"),
  (0x343, 2, "\u0313ι"),
  (0x370, 2, "ͱͳʹͷ"),
  (0x37e, 1, ";ϳ"),
  (0x386, 1, "ά·έήί"),
  (0x38c, 2, "όύ"),
  (0x38f, 2, "ώα"),
  (0x392, 1, "βγδεζηθικλμνξοπρ"),
  (0x3a3, 1, "στυφχψωϊϋ"),
  (0x3cf, 1, "ϗβθυύϋφπ"),
  (0x3d8, 2, "ϙϛϝϟϡϣϥϧϩϫϭϯκ"),
  (0x3f1, 1, "ρσ"),
  (0x3f4, 1, "θε"),
  (0x3f7, 2, "ϸσ"),
  (0x3fa, 1, "ϻ"),
  (0x3fd, 1, "ͻͼͽѐёђѓєѕіїјљњћќѝўџабвгдежзийклмнопрстуфхцчшщъыьэюя"),
  (0x460, 2, "ѡѣѥѧѩѫѭѯѱѳѵѷѹѻѽѿҁ"),
  (0x48a, 2, "ҋҍҏґғҕҗҙқҝҟҡңҥҧҩҫҭүұҳҵҷҹһҽҿӏ"),
  (0x4c1, 2, "ӂӄӆӈӊӌӎ"),
  (0x4d0, 2, "ӑӓӕӗәӛӝӟӡӣӥӧөӫӭӯӱӳӵӷӹӻӽӿԁԃԅԇԉԋԍԏԑԓԕԗԙԛԝԟԡԣԥԧԩԫԭԯ"),
  (0x531, 1, "աբգդեզէըթժիլխծկհձղճմյնշոչպջռսվտրցւփքօֆ"),
  (0xf0c, 1, "་"),
  (0x10a0, 1, "ⴀⴁⴂⴃⴄⴅⴆⴇⴈⴉⴊⴋⴌⴍⴎⴏⴐⴑⴒⴓⴔⴕⴖⴗⴘⴙⴚⴛⴜⴝⴞⴟⴠⴡⴢⴣⴤⴥ"),
  (0x10c7, 1, "ⴧ"),
  (0x10cd, 1, "ⴭ"),
  (0x10fc, 1, "ნ"),
  (0x13f8, 1, "ᏰᏱᏲᏳᏴᏵ"),
  (0x1c80, 1, "вдосттъѣꙋ\u1c8a"),
  (0x1c90, 1, "აბგდევზთიკლმნოპჟრსტუფქღყშჩცძწჭხჯჰჱჲჳჴჵჶჷჸჹჺ"),
  (0x1cbd, 1, "ჽჾჿ"),
  (0x1d2c, 1, "aæb"),
  (0x1d30, 1, "deǝghijklmn"),
  (0x1d3c, 1, "oȣprtuwaɐɑᴂbdeəɛɜg"),
  (0x1d4f, 1, "kmŋoɔᴖᴗptuᴝɯvᴥβγδφχiruvβγρφχ"),
  (0x1d78, 1, "н"),
  (0x1d9b, 1, "ɒcɕðɜfɟɡɥɨɩɪᵻʝɭᶅʟɱɰɲɳɴɵɸʂʃƫʉʊᴜʋʌzʐʑʒθ"),
  (0x1e00, 2, "ḁḃḅḇḉḋḍḏḑḓḕḗḙḛḝḟḡḣḥḧḩḫḭḯḱḳḵḷḹḻḽḿṁṃṅṇṉṋṍṏṑṓṕṗṙṛṝṟṡṣṥṧṩṫṭṯṱṳṵṷṹṻṽṿẁẃẅẇẉẋẍẏẑẓẕ"),
  (0x1e9b, 1, "ṡ"),
  (0x1e9e, 2, "ßạảấầẩẫậắằẳẵặẹẻẽếềểễệỉịọỏốồổỗộớờởỡợụủứừửữựỳỵỷỹỻỽỿ"),
  (0x1f08, 1, "ἀἁἂἃἄἅἆἇ"),
  (0x1f18, 1, "ἐἑἒἓἔἕ"),
  (0x1f28, 1, "ἠἡἢἣἤἥἦἧ"),
  (0x1f38, 1, "ἰἱἲἳἴἵἶἷ"),
  (0x1f48, 1, "ὀὁὂὃὄὅ"),
  (0x1f59, 2, "ὑὓὕὗ"),
  (0x1f68, 1, "ὠὡὢὣὤὥὦὧ"),
  (0x1f71, 2, "άέήίόύώ"),
  (0x1fb8, 1, "ᾰᾱὰά"),
  (0x1fbe, 1, "ι"),
  (0x1fc8, 1, "ὲέὴή"),
  (0x1fd3, 1, "ΐ"),
  (0x1fd8, 1, "ῐῑὶί"),
  (0x1fe3, 1, "ΰ"),
  (0x1fe8, 1, "ῠῡὺύῥ"),
  (0x1fef, 1, "`"),
  (0x1ff8, 1, "ὸόὼώ"),
  (0x2000, 1, "           "),
  (0x2011, 1, "‐"),
  (0x202f, 1, " "),
  (0x205f, 1, " "),
  (0x2070, 1, "0i"),
  (0x2074, 1, "456789+−=()n0123456789+−=()"),
  (0x2090, 1, "aeoxəhklmnpst"),
  (0x2102, 1, "c"),
  (0x2107, 1, "ɛ"),
  (0x210a, 1, "ghhhhħiill"),
  (0x2115, 1, "n"),
  (0x2119, 1, "pqrrr"),
  (0x2124, 2, "zωzk"),
  (0x212b, 1, "åbc"),
  (0x212f, 1, "eefⅎmo\u05d0\u05d1\u05d2\u05d3i"),
  (0x213c, 1, "πγγπ∑"),
  (0x2145, 1, "ddeij"),
  (0x2160, 1, "i"),
  (0x2164, 1, "v"),
  (0x2169, 1, "x"),
  (0x216c, 1, "lcdmi"),
  (0x2174, 1, "v"),
  (0x2179, 1, "x"),
  (0x217c, 1, "lcdm"),
  (0x2183, 1, "ↄ"),
  (0x2329, 1, "〈〉"),
  (0x2460, 1, "123456789"),
  (0x24b6, 1, "abcdefghijklmnopqrstuvwxyzabcdefghijklmnopqrstuvwxyz0"),
  (0x2c00, 1, "ⰰⰱⰲⰳⰴⰵⰶⰷⰸⰹⰺⰻⰼⰽⰾⰿⱀⱁⱂⱃⱄⱅⱆⱇⱈⱉⱊⱋⱌⱍⱎⱏⱐⱑⱒⱓⱔⱕⱖⱗⱘⱙⱚⱛⱜⱝⱞⱟ"),
  (0x2c60, 2, "ⱡɫ"),
  (0x2c63, 1, "ᵽɽ"),
  (0x2c67, 2, "ⱨⱪⱬɑ"),
  (0x2c6e, 1, "ɱɐɒ"),
  (0x2c72, 1, "ⱳ"),
  (0x2c75, 1, "ⱶ"),
  (0x2c7c, 1, "jvȿɀⲁ"),
  (0x2c82, 2, "ⲃⲅⲇⲉⲋⲍⲏⲑⲓⲕⲗⲙⲛⲝⲟⲡⲣⲥⲧⲩⲫⲭⲯⲱⲳⲵⲷⲹⲻⲽⲿⳁⳃⳅⳇⳉⳋⳍⳏⳑⳓⳕⳗⳙⳛⳝⳟⳡⳣ"),
  (0x2ceb, 2, "ⳬⳮ"),
  (0x2cf2, 1, "ⳳ"),
  (0x2d6f, 1, "ⵡ"),
  (0x2e9f, 1, "母"),
  (0x2ef3, 1, "龟"),
  (0x2f00, 1, "一丨丶丿乙亅二亠人儿入八冂冖冫几凵刀力勹匕匚匸十卜卩厂厶又口囗土士夂夊夕大女子宀"),
  (0x2f28, 1, "寸小尢尸屮山巛工己巾干幺广廴廾弋弓彐彡彳心戈戶手支攴文斗斤方无日曰月木欠止歹殳毋"),
  (0x2f50, 1, "比毛氏气水火爪父爻爿片牙牛犬玄玉瓜瓦甘生用田疋疒癶白皮皿目矛矢石示禸禾穴立竹米糸"),
  (0x2f78, 1, "缶网羊羽老而耒耳聿肉臣自至臼舌舛舟艮色艸虍虫血行衣襾見角言谷豆豕豸貝赤走足身車辛"),
  (0x2fa0, 1, "辰辵邑酉釆里金長門阜隶隹雨靑非面革韋韭音頁風飛食首香馬骨高髟鬥鬯鬲鬼魚鳥鹵鹿麥麻"),
  (0x2fc8, 1, "黃黍黑黹黽鼎鼓鼠鼻齊齒龍龜龠"),
  (0x3000, 2, " ."),
  (0x3036, 2, "〒十"),
  (0x3039, 1, "卄卅"),
  (0x3131, 1, "ᄀᄁᆪᄂᆬᆭᄃᄄᄅᆰᆱᆲᆳᆴᆵᄚᄆᄇᄈᄡᄉᄊᄋᄌᄍᄎᄏᄐᄑ하ᅢᅣᅤᅥᅦᅧᅨᅩᅪᅫᅬᅭᅮᅯᅰᅱᅲᅳᅴᅵ"),
  (0x3165, 1, "ᄔᄕᇇᇈᇌᇎᇓᇗᇙᄜᇝᇟᄝᄞᄠᄢᄣᄧᄩᄫᄬᄭᄮᄯᄲᄶᅀᅇᅌᇱᇲᅗᅘᅙᆄᆅᆈᆑᆒᆔᆞᆡ"),
  (0x3192, 1, "一二三四上中下甲乙丙丁天地人"),
  (0x3244, 1, "問幼文箏"),
  (0x3260, 1, "ᄀᄂᄃᄅᄆᄇᄉᄋᄌᄎᄏᄐᄑᄒ가나다라마바사아자차카타파하"),
  (0x327e, 2, "우一"),
  (0x3281, 1, "二三四五六七八九十月火水木金土日株有社名特財祝労秘男女適優印注項休写正上中下左右"),
  (0x32a9, 1, "医宗学監企資協夜"),
  (0x32d0, 1, "アイウエオカキクケコサシスセソタチツテトナニヌネノハヒフヘホマミムメモヤユヨラリ"),
  (0x32f8, 1, "ルレロワヰヱヲ"),
  (0xa640, 2, "ꙁꙃꙅꙇꙉꙋꙍꙏꙑꙓꙕꙗꙙꙛꙝꙟꙡꙣꙥꙧꙩꙫꙭ"),
  (0xa680, 2, "ꚁꚃꚅꚇꚉꚋꚍꚏꚑꚓꚕꚗꚙꚛъ"),
  (0xa69d, 1, "ь"),
  (0xa722, 2, "ꜣꜥꜧꜩꜫꜭꜯ"),
  (0xa732, 2, "ꜳꜵꜷꜹꜻꜽꜿꝁꝃꝅꝇꝉꝋꝍꝏꝑꝓꝕꝗꝙꝛꝝꝟꝡꝣꝥꝧꝩꝫꝭꝯꝯ"),
  (0xa779, 2, "ꝺꝼᵹ"),
  (0xa77e, 2, "ꝿꞁꞃꞅꞇ"),
  (0xa78b, 2, "ꞌɥ"),
  (0xa790, 2, "ꞑꞓ"),
  (0xa796, 2, "ꞗꞙꞛꞝꞟꞡꞣꞥꞧꞩɦ"),
  (0xa7ab, 1, "ɜɡɬɪ"),
  (0xa7b0, 1, "ʞʇʝꭓꞵ"),
  (0xa7b6, 2, "ꞷꞹꞻꞽꞿꟁꟃꞔ"),
  (0xa7c5, 1, "ʂᶎꟈ"),
  (0xa7c9, 2, "ꟊɤ"),
  (0xa7cc, 2, "\ua7cd\ua7cfꟑꟓꟕꟗꟙ\ua7dbƛ"),
  (0xa7f1, 1, "scfqꟶ"),
  (0xa7f8, 1, "ħœ"),
  (0xab5c, 1, "ꜧꬷɫꭒ"),
  (0xab69, 1, "ʍ"),
  (0xab70, 1, "ᎠᎡᎢᎣᎤᎥᎦᎧᎨᎩᎪᎫᎬᎭᎮᎯᎰᎱᎲᎳᎴᎵᎶᎷᎸᎹᎺᎻᎼᎽᎾᎿᏀᏁᏂᏃᏄᏅᏆᏇᏈᏉᏊᏋᏌᏍᏎᏏᏐᏑᏒᏓᏔᏕᏖᏗᏘᏙᏚᏛᏜᏝᏞᏟᏠᏡᏢᏣᏤᏥᏦᏧᏨᏩᏪᏫᏬᏭᏮᏯ"),
  (0xf900, 1, "豈更車賈滑串句龜龜契金喇奈懶癩羅蘿螺裸邏樂洛烙珞落酪駱亂卵欄爛蘭鸞嵐濫藍襤拉臘蠟"),
  (0xf928, 1, "廊朗浪狼郎來冷勞擄櫓爐盧老蘆虜路露魯鷺碌祿綠菉錄鹿論壟弄籠聾牢磊賂雷壘屢樓淚漏累"),
  (0xf950, 1, "縷陋勒肋凜凌稜綾菱陵讀拏樂諾丹寧怒率異北磻便復不泌數索參塞省葉說殺辰沈拾若掠略亮"),
  (0xf978, 1, "兩凉梁糧良諒量勵呂女廬旅濾礪閭驪麗黎力曆歷轢年憐戀撚漣煉璉秊練聯輦蓮連鍊列劣咽烈"),
  (0xf9a0, 1, "裂說廉念捻殮簾獵令囹寧嶺怜玲瑩羚聆鈴零靈領例禮醴隸惡了僚寮尿料樂燎療蓼遼龍暈阮劉"),
  (0xf9c8, 1, "杻柳流溜琉留硫紐類六戮陸倫崙淪輪律慄栗率隆利吏履易李梨泥理痢罹裏裡里離匿溺吝燐璘"),
  (0xf9f0, 1, "藺隣鱗麟林淋臨立笠粒狀炙識什茶刺切度拓糖宅洞暴輻行降見廓兀嗀"),
  (0xfa10, 2, "塚晴"),
  (0xfa15, 1, "凞猪益礼神祥福靖精羽"),
  (0xfa20, 2, "蘒諸"),
  (0xfa25, 1, "逸都"),
  (0xfa2a, 1, "飯飼館鶴郞隷侮僧免勉勤卑喝嘆器塀墨層屮悔慨憎懲敏既暑梅海渚漢煮爫琢碑社祉祈祐祖祝"),
  (0xfa52, 1, "禍禎穀突節練縉繁署者臭艹艹著褐視謁謹賓贈辶逸難響頻恵𤋮舘"),
  (0xfa70, 1, "並况全侀充冀勇勺喝啕喙嗢塚墳奄奔婢嬨廒廙彩徭惘慎愈憎慠懲戴揄搜摒敖晴朗望杖歹殺流"),
  (0xfa98, 1, "滛滋漢瀞煮瞧爵犯猪瑱甆画瘝瘟益盛直睊着磌窱節类絛練缾者荒華蝹襁覆視調諸請謁諾諭謹"),
  (0xfac0, 1, "變贈輸遲醙鉶陼難靖韛響頋頻鬒龜𢡊𢡄𣏕㮝䀘䀹𥉉𥳐𧻓齃龎"),
  (0xfb20, 1, "\u05e2\u05d0\u05d3\u05d4\u05db\u05dc\u05dd\u05e8\u05ea+"),
  (0xfb50, 1, "\u0671\u0671\u067b\u067b\u067b\u067b\u067e\u067e\u067e\u067e\u0680\u0680\u0680"),
  (0xfb5d, 1, "\u0680\u067a\u067a\u067a\u067a\u067f\u067f\u067f\u067f\u0679\u0679\u0679\u0679"),
  (0xfb6a, 1, "\u06a4\u06a4\u06a4\u06a4\u06a6\u06a6\u06a6\u06a6\u0684\u0684\u0684\u0684\u0683"),
  (0xfb77, 1, "\u0683\u0683\u0683\u0686\u0686\u0686\u0686\u0687\u0687\u0687\u0687\u068d\u068d"),
  (0xfb84, 1, "\u068c\u068c\u068e\u068e\u0688\u0688\u0698\u0698\u0691\u0691\u06a9\u06a9\u06a9"),
  (0xfb91, 1, "\u06a9\u06af\u06af\u06af\u06af\u06b3\u06b3\u06b3\u06b3\u06b1\u06b1\u06b1\u06b1"),
  (0xfb9e, 1, "\u06ba\u06ba\u06bb\u06bb\u06bb\u06bb\u06c0\u06c0\u06c1\u06c1\u06c1\u06c1\u06be"),
  (0xfbab, 1, "\u06be\u06be\u06be\u06d2\u06d2\u06d3\u06d3"),
  (0xfbd3, 1, "\u06ad\u06ad\u06ad\u06ad\u06c7\u06c7\u06c6\u06c6\u06c8\u06c8"),
  (0xfbde, 1, "\u06cb\u06cb\u06c5\u06c5\u06c9\u06c9\u06d0\u06d0\u06d0\u06d0\u0649\u0649"),
  (0xfbfc, 1, "\u06cc\u06cc\u06cc\u06cc"),
  (0xfe10, 1, ",、"),
  (0xfe13, 1, ":;!?〖〗"),
  (0xfe31, 1, "—–__()\x7b\x7d〔〕【】《》〈〉「」『』"),
  (0xfe47, 1, "[]"),
  (0xfe4d, 1, "___,、"),
  (0xfe54, 1, ";:?!—()\x7b\x7d〔〕#&*+-<>="),
  (0xfe68, 1, "\\$%@"),
  (0xfe80, 1, "\u0621\u0622\u0622\u0623\u0623\u0624\u0624\u0625\u0625\u0626\u0626\u0626\u0626"),
  (0xfe8d, 1, "\u0627\u0627\u0628\u0628\u0628\u0628\u0629\u0629\u062a\u062a\u062a\u062a\u062b"),
  (0xfe9a, 1, "\u062b\u062b\u062b\u062c\u062c\u062c\u062c\u062d\u062d\u062d\u062d\u062e\u062e"),
  (0xfea7, 1, "\u062e\u062e\u062f\u062f\u0630\u0630\u0631\u0631\u0632\u0632\u0633\u0633\u0633"),
  (0xfeb4, 1, "\u0633\u0634\u0634\u0634\u0634\u0635\u0635\u0635\u0635\u0636\u0636\u0636\u0636"),
  (0xfec1, 1, "\u0637\u0637\u0637\u0637\u0638\u0638\u0638\u0638\u0639\u0639\u0639\u0639\u063a"),
  (0xfece, 1, "\u063a\u063a\u063a\u0641\u0641\u0641\u0641\u0642\u0642\u0642\u0642\u0643\u0643"),
  (0xfedb, 1, "\u0643\u0643\u0644\u0644\u0644\u0644\u0645\u0645\u0645\u0645\u0646\u0646\u0646"),
  (0xfee8, 1, "\u0646\u0647\u0647\u0647\u0647\u0648\u0648\u0649\u0649\u064a\u064a\u064a\u064a"),
  (0xff01, 1, "!\"#$%&'()*+,-./0123456789:;<=>?@abcdefghijklmnopqrstuvwxyz[\\]^_`abcdefghijklmn"),
  (0xff4f, 1, "opqrstuvwxyz\x7b|\x7d~⦅⦆.「」、・ヲァィゥェォャュョッーアイウエオカキクケコサシ"),
  (0xff7d, 1, "スセソタチツテトナニヌネノハヒフヘホマミムメモヤユヨラリルレロワン\u3099\u309a"),
  (0xffa1, 1, "ᄀᄁᆪᄂᆬᆭᄃᄄᄅᆰᆱᆲᆳᆴᆵᄚᄆᄇᄈᄡᄉᄊᄋᄌᄍᄎᄏᄐᄑᄒ"),
  (0xffc2, 1, "ᅡᅢᅣᅤᅥᅦ"),
  (0xffca, 1, "ᅧᅨᅩᅪᅫᅬ"),
  (0xffd2, 1, "ᅭᅮᅯᅰᅱᅲ"),
  (0xffda, 1, "ᅳᅴᅵ"),
  (0xffe0, 1, "¢£¬"),
  (0xffe4, 1, "¦¥₩"),
  (0xffe8, 1, "│←↑→↓■○"),
  (0x10400, 1, "𐐨𐐩𐐪𐐫𐐬𐐭𐐮𐐯𐐰𐐱𐐲𐐳𐐴𐐵𐐶𐐷𐐸𐐹𐐺𐐻𐐼𐐽𐐾𐐿𐑀𐑁𐑂𐑃𐑄𐑅𐑆𐑇𐑈𐑉𐑊𐑋𐑌𐑍𐑎𐑏"),
  (0x104b0, 1, "𐓘𐓙𐓚𐓛𐓜𐓝𐓞𐓟𐓠𐓡𐓢𐓣𐓤𐓥𐓦𐓧𐓨𐓩𐓪𐓫𐓬𐓭𐓮𐓯𐓰𐓱𐓲𐓳𐓴𐓵𐓶𐓷𐓸𐓹𐓺𐓻"),
  (0x10570, 1, "𐖗𐖘𐖙𐖚𐖛𐖜𐖝𐖞𐖟𐖠𐖡"),
  (0x1057c, 1, "𐖣𐖤𐖥𐖦𐖧𐖨𐖩𐖪𐖫𐖬𐖭𐖮𐖯𐖰𐖱"),
  (0x1058c, 1, "𐖳𐖴𐖵𐖶𐖷𐖸𐖹"),
  (0x10594, 1, "𐖻𐖼"),
  (0x10781, 1, "ːˑæʙɓ"),
  (0x10787, 1, "ʣꭦʥʤɖɗᶑɘɞʩɤɢɠʛħʜɧʄʪʫɬ𝼄ꞎɮ𝼅ʎ𝼆øɶɷqɺ𝼈ɽɾʀʨʦꭧʧʈⱱ"),
  (0x107b2, 1, "ʏʡʢʘǀǁǂ𝼊𝼞"),
  (0x10c80, 1, "𐳀𐳁𐳂𐳃𐳄𐳅𐳆𐳇𐳈𐳉𐳊𐳋𐳌𐳍𐳎𐳏𐳐𐳑𐳒𐳓𐳔𐳕𐳖𐳗𐳘𐳙𐳚𐳛𐳜𐳝𐳞𐳟𐳠𐳡𐳢𐳣𐳤𐳥𐳦𐳧𐳨𐳩𐳪𐳫𐳬𐳭𐳮𐳯𐳰𐳱𐳲"),
  (0x10d50, 1, "𐵰𐵱𐵲𐵳𐵴𐵵𐵶𐵷𐵸𐵹𐵺𐵻𐵼𐵽𐵾𐵿𐶀𐶁𐶂𐶃𐶄𐶅"),
  (0x118a0, 1, "𑣀𑣁𑣂𑣃𑣄𑣅𑣆𑣇𑣈𑣉𑣊𑣋𑣌𑣍𑣎𑣏𑣐𑣑𑣒𑣓𑣔𑣕𑣖𑣗𑣘𑣙𑣚𑣛𑣜𑣝𑣞𑣟"),
  (0x16e40, 1, "𖹠𖹡𖹢𖹣𖹤𖹥𖹦𖹧𖹨𖹩𖹪𖹫𖹬𖹭𖹮𖹯𖹰𖹱𖹲𖹳𖹴𖹵𖹶𖹷𖹸𖹹𖹺𖹻𖹼𖹽𖹾𖹿"),
  (0x16ea0, 1, "𖺻𖺼𖺽𖺾𖺿𖻀𖻁𖻂𖻃𖻄𖻅𖻆𖻇𖻈𖻉𖻊𖻋𖻌𖻍𖻎𖻏𖻐𖻑𖻒𖻓"),
  (0x1ccd6, 1, "abcdefghijklmnopqrstuvwxyz0123456789"),
  (0x1d400, 1, "abcdefghijklmnopqrstuvwxyzabcdefghijklmnopqrstuvwxyzabcdefghijklmnopqrstuvwxyza"),
  (0x1d44f, 1, "bcdefg"),
  (0x1d456, 1, "ijklmnopqrstuvwxyzabcdefghijklmnopqrstuvwxyzabcdefghijklmnopqrstuvwxyza"),
  (0x1d49e, 1, "cd"),
  (0x1d4a2, 1, "g"),
  (0x1d4a5, 1, "jk"),
  (0x1d4a9, 1, "nopq"),
  (0x1d4ae, 1, "stuvwxyzabcd"),
  (0x1d4bb, 2, "fh"),
  (0x1d4be, 1, "ijklmn"),
  (0x1d4c5, 1, "pqrstuvwxyzabcdefghijklmnopqrstuvwxyzabcdefghijklmnopqrstuvwxyzab"),
  (0x1d507, 1, "defg"),
  (0x1d50d, 1, "jklmnopq"),
  (0x1d516, 1, "stuvwxy"),
  (0x1d51e, 1, "abcdefghijklmnopqrstuvwxyzab"),
  (0x1d53b, 1, "defg"),
  (0x1d540, 1, "ijklm"),
  (0x1d546, 1, "o"),
  (0x1d54a, 1, "stuvwxy"),
  (0x1d552, 1, "abcdefghijklmnopqrstuvwxyzabcdefghijklmnopqrstuvwxyzabcdefghijklmnopqrstuvwxyza"),
  (0x1d5a1, 1, "bcdefghijklmnopqrstuvwxyzabcdefghijklmnopqrstuvwxyzabcdefghijklmnopqrstuvwxyzab"),
  (0x1d5f0, 1, "cdefghijklmnopqrstuvwxyzabcdefghijklmnopqrstuvwxyzabcdefghijklmnopqrstuvwxyzabc"),
  (0x1d63f, 1, "defghijklmnopqrstuvwxyzabcdefghijklmnopqrstuvwxyzabcdefghijklmnopqrstuvwxyzabcd"),
  (0x1d68e, 1, "efghijklmnopqrstuvwxyzıȷ"),
  (0x1d6a8, 1, "αβγδεζηθικλμνξοπρθστυφχψω∇αβγδεζηθικλμνξοπρσστυφχψω∂εθκφρπαβγδεζηθικλμνξοπρθστυ"),
  (0x1d6f7, 1, "φχψω∇αβγδεζηθικλμνξοπρσστυφχψω∂εθκφρπαβγδεζηθικλμνξοπρθστυφχψω∇αβγδεζηθικλμνξοπ"),
  (0x1d746, 1, "ρσστυφχψω∂εθκφρπαβγδεζηθικλμνξοπρθστυφχψω∇αβγδεζηθικλμνξοπρσστυφχψω∂εθκφρπαβγδε"),
  (0x1d795, 1, "ζηθικλμνξοπρθστυφχψω∇αβγδεζηθικλμνξοπρσστυφχψω∂εθκφρπϝϝ"),
  (0x1d7ce, 1, "01234567890123456789012345678901234567890123456789"),
  (0x1e030, 1, "абвгдежзиклмопрстуфхцчшыэюꚉәіјөүӏабвгдежзиклопсуфхцчшъыґіѕџҫꙑұ"),
  (0x1e900, 1, "𞤢𞤣𞤤𞤥𞤦𞤧𞤨𞤩𞤪𞤫𞤬𞤭𞤮𞤯𞤰𞤱𞤲𞤳𞤴𞤵𞤶𞤷𞤸𞤹𞤺𞤻𞤼𞤽𞤾𞤿𞥀𞥁𞥂𞥃"),
  (0x1ee00, 1, "\u0627\u0628\u062c\u062f"),
  (0x1ee05, 1, "\u0648\u0632\u062d\u0637\u064a\u0643\u0644\u0645\u0646\u0633\u0639\u0641\u0635"),
  (0x1ee12, 1, "\u0642\u0631\u0634\u062a\u062b\u062e\u0630\u0636\u0638\u063a\u066e\u06ba\u06a1"),
  (0x1ee1f, 1, "\u066f"),
  (0x1ee21, 1, "\u0628\u062c"),
  (0x1ee24, 1, "\u0647"),
  (0x1ee27, 2, "\u062d\u064a"),
  (0x1ee2a, 1, "\u0643\u0644\u0645\u0646\u0633\u0639\u0641\u0635\u0642"),
  (0x1ee34, 1, "\u0634\u062a\u062b\u062e"),
  (0x1ee39, 2, "\u0636\u063a"),
  (0x1ee42, 1, "\u062c"),
  (0x1ee47, 2, "\u062d\u064a\u0644\u0646"),
  (0x1ee4e, 1, "\u0633\u0639"),
  (0x1ee51, 1, "\u0635\u0642"),
  (0x1ee54, 1, "\u0634"),
  (0x1ee57, 2, "\u062e\u0636\u063a\u06ba\u066f\u0628"),
  (0x1ee62, 2, "\u062c\u0647"),
  (0x1ee67, 1, "\u062d\u0637\u064a\u0643"),
  (0x1ee6c, 1, "\u0645\u0646\u0633\u0639\u0641\u0635\u0642"),
  (0x1ee74, 1, "\u0634\u062a\u062b\u062e"),
  (0x1ee79, 1, "\u0636\u0638\u063a\u066e"),
  (0x1ee7e, 2, "\u06a1\u0627"),
  (0x1ee81, 1, "\u0628\u062c\u062f\u0647\u0648\u0632\u062d\u0637\u064a"),
  (0x1ee8b, 1, "\u0644\u0645\u0646\u0633\u0639\u0641\u0635\u0642\u0631\u0634\u062a\u062b\u062e"),
  (0x1ee98, 1, "\u0630\u0636\u0638\u063a"),
  (0x1eea1, 1, "\u0628\u062c\u062f"),
  (0x1eea5, 1, "\u0648\u0632\u062d\u0637\u064a"),
  (0x1eeab, 1, "\u0644\u0645\u0646\u0633\u0639\u0641\u0635\u0642\u0631\u0634\u062a\u062b\u062e"),
  (0x1eeb8, 1, "\u0630\u0636\u0638\u063a"),
  (0x1f12b, 1, "cr"),
  (0x1f130, 1, "abcdefghijklmnopqrstuvwxyz"),
  (0x1f202, 1, "サ"),
  (0x1f210, 1, "手字双デ二多解天交映無料前後再新初終生販声吹演投捕一三遊左中右指走打禁空合満有"),
  (0x1f237, 1, "月申割営配"),
  (0x1f250, 1, "得可"),
  (0x1fbf0, 1, "0123456789"),
  (0x2f800, 1, "丽丸乁𠄢你侮侻倂偺備僧像㒞𠘺免兔兤具𠔜㒹內再𠕋冗冤仌冬况𩇟凵刃㓟刻剆割剷㔕勇勉"),
  (0x2f827, 1, "勤勺包匆北卉卑博即卽卿卿卿𠨬灰及叟𠭣叫叱吆咞吸呈周咢哶唐啓啣善善喙喫喳嗂圖嘆圗"),
  (0x2f84e, 1, "噑噴切壮城埴堍型堲報墬𡓤売壷夆多夢奢𡚨𡛪姬娛娧姘婦㛮㛼嬈嬾嬾𡧈寃寘寧寳𡬘寿将当"),
  (0x2f875, 1, "尢㞁屠屮峀岍𡷤嵃𡷦嵮嵫嵼巡巢㠯巽帨帽幩㡢𢆃㡼庰庳庶廊𪎒廾𢌱𢌱舁弢弢㣇𣊸𦇚形彫㣣"),
  (0x2f89c, 1, "徚忍志忹悁㤺㤜悔𢛔惇慈慌慎慌慺憎憲憤憯懞懲懶成戛扝抱拔捐𢬌挽拼捨掃揤𢯱搢揅掩㨮"),
  (0x2f8c3, 1, "摩摾撝摷㩬敏敬𣀊旣書晉㬙暑㬈㫤冒冕最暜肭䏙朗望朡杞杓𣏃㭉柺枅桒梅𣑭梎栟椔㮝楂榣"),
  (0x2f8ea, 1, "槪檨𣚣櫛㰘次𣢧歔㱎歲殟殺殻𣪍𡴋𣫺汎𣲼沿泍汧洖派海流浩浸涅𣴞洴港湮㴳滋滇𣻑淹潮𣽞"),
  (0x2f911, 1, "𣾎濆瀹瀞瀛㶖灊災灷炭𠔥煅𤉣熜𤎫爨爵牐𤘈犀犕𤜵𤠔獺王㺬玥㺸㺸瑇瑜瑱璅瓊㼛甤𤰶甾𤲒"),
  (0x2f938, 1, "異𢆟瘐𤾡𤾸𥁄㿼䀈直𥃳𥃲𥄙𥄳眞真真睊䀹瞋䁆䂖𥐝硎碌磌䃣𥘦祖𥚚𥛅福秫䄯穀穊穏𥥼𥪧𥪧"),
  (0x2f95f, 1, "竮䈂𥮫篆築䈧𥲀糒䊠糨糣紀𥾆絣䌁緇縂繅䌴𦈨𦉇䍙𦋙罺𦌾羕翺者𦓚𦔣聠𦖨聰𣍟䏕育脃䐋脾"),
  (0x2f986, 1, "媵𦞧𦞵𣎓𣎜舁舄辞䑫芑芋芝劳花芳芽苦𦬼若茝荣莭茣莽菧著荓菊菌菜𦰶𦵫𦳕䔫蓱蓳蔖𧏊蕤"),
  (0x2f9ad, 1, "𦼬䕝䕡𦾱𧃒䕫虐虜虧虩蚩蚈蜎蛢蝹蜨蝫螆䗗蟡蠁䗹衠衣𧙧裗裞䘵裺㒻𧢮𧥦䚾䛇誠諭變豕𧲨"),
  (0x2f9d4, 1, "貫賁贛起𧼯𠠄跋趼跰𠣞軔輸𨗒𨗭邔郱鄑𨜮鄛鈸鋗鋘鉼鏹鐕𨯺開䦕閷𨵷䧦雃嶲霣𩅅𩈚䩮䩶韠"),
  (0x2f9fb, 1, "𩐊䪲𩒖頋頋頩𩖶飢䬳餩馧駂駾䯎𩬰鬒鱀鳽䳎䳭鵧𪃎䳸𪄅𪈎𪊑麻䵖黹黾鼅鼏鼖鼻𪘀") ]

/-- Characters that are replaced by several others each, in the same form. -/
def longReplacements : List (Nat × Nat × List String) := [
  (0xa8, 1, [" \u0308"]),
  (0xaf, 1, [" \u0304"]),
  (0xb4, 1, [" \u0301"]),
  (0xb8, 1, [" \u0327"]),
  (0xbc, 1, ["1⁄4", "1⁄2", "3⁄4"]),
  (0x130, 2, ["i\u0307", "ij"]),
  (0x133, 1, ["ij"]),
  (0x13f, 1, ["l·", "l·"]),
  (0x149, 1, ["ʼn"]),
  (0x1c4, 1, ["dž", "dž", "dž", "lj", "lj", "lj", "nj", "nj", "nj"]),
  (0x1f1, 1, ["dz", "dz", "dz"]),
  (0x2d8, 1, [" \u0306", " \u0307", " \u030a", " \u0328", " \u0303", " \u030b"]),
  (0x344, 1, ["\u0308\u0301"]),
  (0x37a, 1, [" ι"]),
  (0x384, 1, [" \u0301", " \u0308\u0301"]),
  (0x587, 1, ["եւ"]),
  (0x675, 1, ["\u0627\u0674", "\u0648\u0674", "\u06c7\u0674", "\u064a\u0674"]),
  (0x958, 1, ["क\u093c", "ख\u093c", "ग\u093c", "ज\u093c", "ड\u093c", "ढ\u093c", "फ\u093c",
    "य\u093c"]),
  (0x9dc, 1, ["ড\u09bc", "ঢ\u09bc"]),
  (0x9df, 1, ["য\u09bc"]),
  (0xa33, 1, ["ਲ\u0a3c"]),
  (0xa36, 1, ["ਸ\u0a3c"]),
  (0xa59, 1, ["ਖ\u0a3c", "ਗ\u0a3c", "ਜ\u0a3c"]),
  (0xa5e, 1, ["ਫ\u0a3c"]),
  (0xb5c, 1, ["ଡ\u0b3c", "ଢ\u0b3c"]),
  (0xe33, 1, ["\u0e4dา"]),
  (0xeb3, 1, ["\u0ecdາ"]),
  (0xedc, 1, ["ຫນ", "ຫມ"]),
  (0xf43, 1, ["ག\u0fb7"]),
  (0xf4d, 1, ["ཌ\u0fb7"]),
  (0xf52, 1, ["ད\u0fb7"]),
  (0xf57, 1, ["བ\u0fb7"]),
  (0xf5c, 1, ["ཛ\u0fb7"]),
  (0xf69, 1, ["ཀ\u0fb5"]),
  (0xf73, 2, ["\u0f71\u0f72", "\u0f71\u0f74"]),
  (0xf76, 1, ["\u0fb2\u0f80", "\u0fb2\u0f71\u0f80", "\u0fb3\u0f80", "\u0fb3\u0f71\u0f80"]),
  (0xf81, 1, ["\u0f71\u0f80"]),
  (0xf93, 1, ["\u0f92\u0fb7"]),
  (0xf9d, 1, ["\u0f9c\u0fb7"]),
  (0xfa2, 1, ["\u0fa1\u0fb7"]),
  (0xfa7, 1, ["\u0fa6\u0fb7"]),
  (0xfac, 1, ["\u0fab\u0fb7"]),
  (0xfb9, 1, ["\u0f90\u0fb5"]),
  (0x1e9a, 1, ["aʾ"]),
  (0x1f80, 1, ["ἀι", "ἁι", "ἂι", "ἃι", "ἄι", "ἅι", "ἆι", "ἇι", "ἀι", "ἁι", "ἂι", "ἃι", "ἄι",
    "ἅι", "ἆι", "ἇι", "ἠι", "ἡι", "ἢι", "ἣι", "ἤι", "ἥι", "ἦι", "ἧι", "ἠι", "ἡι", "ἢι", "ἣι",
    "ἤι", "ἥι", "ἦι", "ἧι", "ὠι", "ὡι", "ὢι", "ὣι", "ὤι", "ὥι", "ὦι", "ὧι", "ὠι", "ὡι", "ὢι",
    "ὣι", "ὤι", "ὥι", "ὦι", "ὧι"]),
  (0x1fb2, 1, ["ὰι", "αι", "άι"]),
  (0x1fb7, 1, ["ᾶι"]),
  (0x1fbc, 1, ["αι", " \u0313"]),
  (0x1fbf, 1, [" \u0313", " \u0342", " \u0308\u0342", "ὴι", "ηι", "ήι"]),
  (0x1fc7, 1, ["ῆι"]),
  (0x1fcc, 1, ["ηι", " \u0313\u0300", " \u0313\u0301", " \u0313\u0342"]),
  (0x1fdd, 1, [" \u0314\u0300", " \u0314\u0301", " \u0314\u0342"]),
  (0x1fed, 1, [" \u0308\u0300", " \u0308\u0301"]),
  (0x1ff2, 1, ["ὼι", "ωι", "ώι"]),
  (0x1ff7, 1, ["ῶι"]),
  (0x1ffc, 1, ["ωι", " \u0301", " \u0314"]),
  (0x2017, 1, [" \u0333"]),
  (0x2033, 1, ["′′", "′′′"]),
  (0x2036, 1, ["‵‵", "‵‵‵"]),
  (0x203c, 2, ["!!", " \u0305"]),
  (0x2047, 1, ["??", "?!", "!?"]),
  (0x2057, 1, ["′′′′"]),
  (0x20a8, 1, ["rs"]),
  (0x2100, 1, ["a/c", "a/s"]),
  (0x2103, 2, ["°c", "c/o"]),
  (0x2106, 1, ["c/u"]),
  (0x2109, 1, ["°f"]),
  (0x2116, 1, ["no"]),
  (0x2120, 1, ["sm", "tel", "tm"]),
  (0x213b, 1, ["fax"]),
  (0x2150, 1, ["1⁄7", "1⁄9", "1⁄10", "1⁄3", "2⁄3", "1⁄5", "2⁄5", "3⁄5", "4⁄5", "1⁄6", "5⁄6",
    "1⁄8", "3⁄8", "5⁄8", "7⁄8", "1⁄"]),
  (0x2161, 1, ["ii", "iii", "iv"]),
  (0x2165, 1, ["vi", "vii", "viii", "ix"]),
  (0x216a, 1, ["xi", "xii"]),
  (0x2171, 1, ["ii", "iii", "iv"]),
  (0x2175, 1, ["vi", "vii", "viii", "ix"]),
  (0x217a, 1, ["xi", "xii"]),
  (0x2189, 1, ["0⁄3"]),
  (0x222c, 1, ["∫∫", "∫∫∫"]),
  (0x222f, 1, ["∮∮", "∮∮∮"]),
  (0x2469, 1, ["10", "11", "12", "13", "14", "15", "16", "17", "18", "19", "20", "(1)", "(2)",
    "(3)", "(4)", "(5)", "(6)", "(7)", "(8)", "(9)", "(10)", "(11)", "(12)", "(13)", "(14)",
    "(15)", "(16)", "(17)", "(18)", "(19)", "(20)"]),
  (0x249c, 1, ["(a)", "(b)", "(c)", "(d)", "(e)", "(f)", "(g)", "(h)", "(i)", "(j)", "(k)",
    "(l)", "(m)", "(n)", "(o)", "(p)", "(q)", "(r)", "(s)", "(t)", "(u)", "(v)", "(w)", "(x)",
    "(y)", "(z)"]),
  (0x2a0c, 1, ["∫∫∫∫"]),
  (0x2a74, 1, ["::=", "==", "==="]),
  (0x2adc, 1, ["⫝\u0338"]),
  (0x309b, 1, [" \u3099", " \u309a"]),
  (0x309f, 1, ["より"]),
  (0x30ff, 1, ["コト"]),
  (0x3200, 1, ["(ᄀ)", "(ᄂ)", "(ᄃ)", "(ᄅ)", "(ᄆ)", "(ᄇ)", "(ᄉ)", "(ᄋ)", "(ᄌ)", "(ᄎ)",
    "(ᄏ)", "(ᄐ)", "(ᄑ)", "(ᄒ)", "(가)", "(나)", "(다)", "(라)", "(마)", "(바)", "(사)",
    "(아)", "(자)", "(차)", "(카)", "(타)", "(파)", "(하)", "(주)", "(오전)", "(오후)"]),
  (0x3220, 1, ["(一)", "(二)", "(三)", "(四)", "(五)", "(六)", "(七)", "(八)", "(九)", "(十)",
    "(月)", "(火)", "(水)", "(木)", "(金)", "(土)", "(日)", "(株)", "(有)", "(社)", "(名)",
    "(特)", "(財)", "(祝)", "(労)", "(代)", "(呼)", "(学)", "(監)", "(企)", "(資)", "(協)",
    "(祭)", "(休)", "(自)", "(至)"]),
  (0x3250, 1, ["pte", "21", "22", "23", "24", "25", "26", "27", "28", "29", "30", "31", "32",
    "33", "34", "35"]),
  (0x327c, 1, ["참고", "주의"]),
  (0x32b1, 1, ["36", "37", "38", "39", "40", "41", "42", "43", "44", "45", "46", "47", "48",
    "49", "50", "1月", "2月", "3月", "4月", "5月", "6月", "7月", "8月", "9月", "10月", "11月",
    "12月", "hg", "erg", "ev", "ltd"]),
  (0x32ff, 1, ["令和", "アパート", "アルファ", "アンペア", "アール", "イニング", "インチ",
    "ウォン", "エスクード", "エーカー", "オンス", "オーム", "カイリ", "カラット", "カロリー",
    "ガロン", "ガンマ", "ギガ", "ギニー", "キュリー", "ギルダー", "キロ", "キログラム",
    "キロメートル", "キロワット", "グラム", "グラムトン", "クルゼイロ", "クローネ", "ケース",
    "コルナ", "コーポ", "サイクル", "サンチーム", "シリング", "センチ", "セント", "ダース",
    "デシ", "ドル", "トン", "ナノ", "ノット", "ハイツ", "パーセント", "パーツ", "バーレル",
    "ピアストル", "ピクル", "ピコ", "ビル", "ファラッド", "フィート", "ブッシェル", "フラン",
    "ヘクタール", "ペソ", "ペニヒ", "ヘルツ", "ペンス", "ページ", "ベータ", "ポイント", "ボルト",
    "ホン", "ポンド", "ホール", "ホーン", "マイクロ", "マイル", "マッハ", "マルク", "マンション",
    "ミクロン", "ミリ", "ミリバール", "メガ", "メガトン", "メートル", "ヤード", "ヤール",
    "ユアン", "リットル", "リラ", "ルピー", "ルーブル", "レム", "レントゲン", "ワット", "0点",
    "1点", "2点", "3点", "4点", "5点", "6点", "7点", "8点", "9点", "10点", "11点", "12点",
    "13点", "14点", "15点", "16点", "17点", "18点", "19点", "20点", "21点", "22点", "23点",
    "24点", "hpa", "da", "au", "bar", "ov", "pc", "dm", "dm2", "dm3", "iu", "平成", "昭和",
    "大正", "明治", "株式会社", "pa", "na", "μa", "ma", "ka", "kb", "mb", "gb", "cal", "kcal",
    "pf", "nf", "μf", "μg", "mg", "kg", "hz", "khz", "mhz", "ghz", "thz", "μl", "ml", "dl", "kl",
    "fm", "nm", "μm", "mm", "cm", "km", "mm2", "cm2", "m2", "km2", "mm3", "cm3", "m3", "km3",
    "m∕s", "m∕s2", "pa", "kpa", "mpa", "gpa", "rad", "rad∕s", "rad∕s2", "ps", "ns", "μs", "ms",
    "pv", "nv", "μv", "mv", "kv", "mv", "pw", "nw", "μw", "mw", "kw", "mw", "kω", "mω"]),
  (0x33c3, 1, ["bq", "cc", "cd", "c∕kg"]),
  (0x33c8, 1, ["db", "gy", "ha", "hp", "in", "kk", "km", "kt", "lm", "ln", "log", "lx", "mb",
    "mil", "mol", "ph"]),
  (0x33d9, 1, ["ppm", "pr", "sr", "sv", "wb", "v∕m", "a∕m", "1日", "2日", "3日", "4日", "5日",
    "6日", "7日", "8日", "9日", "10日", "11日", "12日", "13日", "14日", "15日", "16日", "17日",
    "18日", "19日", "20日", "21日", "22日", "23日", "24日", "25日", "26日", "27日", "28日",
    "29日", "30日", "31日", "gal"]),
  (0xfb00, 1, ["ff", "fi", "fl", "ffi", "ffl", "st", "st"]),
  (0xfb13, 1, ["մն", "մե", "մի", "վն", "մխ"]),
  (0xfb1d, 2, ["\u05d9\u05b4", "\u05f2\u05b7"]),
  (0xfb2a, 1, ["\u05e9\u05c1", "\u05e9\u05c2", "\u05e9\u05bc\u05c1", "\u05e9\u05bc\u05c2",
    "\u05d0\u05b7", "\u05d0\u05b8", "\u05d0\u05bc", "\u05d1\u05bc", "\u05d2\u05bc",
    "\u05d3\u05bc", "\u05d4\u05bc", "\u05d5\u05bc", "\u05d6\u05bc"]),
  (0xfb38, 1, ["\u05d8\u05bc", "\u05d9\u05bc", "\u05da\u05bc", "\u05db\u05bc", "\u05dc\u05bc"]),
  (0xfb3e, 2, ["\u05de\u05bc", "\u05e0\u05bc"]),
  (0xfb41, 2, ["\u05e1\u05bc", "\u05e3\u05bc"]),
  (0xfb44, 2, ["\u05e4\u05bc", "\u05e6\u05bc"]),
  (0xfb47, 1, ["\u05e7\u05bc", "\u05e8\u05bc", "\u05e9\u05bc", "\u05ea\u05bc", "\u05d5\u05b9",
    "\u05d1\u05bf", "\u05db\u05bf", "\u05e4\u05bf", "\u05d0\u05dc"]),
  (0xfbdd, 1, ["\u06c7\u0674"]),
  (0xfbea, 1, ["\u0626\u0627", "\u0626\u0627", "\u0626\u06d5", "\u0626\u06d5", "\u0626\u0648",
    "\u0626\u0648", "\u0626\u06c7", "\u0626\u06c7", "\u0626\u06c6", "\u0626\u06c6",
    "\u0626\u06c8", "\u0626\u06c8", "\u0626\u06d0", "\u0626\u06d0", "\u0626\u06d0",
    "\u0626\u0649", "\u0626\u0649", "\u0626\u0649"]),
  (0xfc00, 1, ["\u0626\u062c", "\u0626\u062d", "\u0626\u0645", "\u0626\u0649", "\u0626\u064a",
    "\u0628\u062c", "\u0628\u062d", "\u0628\u062e", "\u0628\u0645", "\u0628\u0649",
    "\u0628\u064a", "\u062a\u062c", "\u062a\u062d", "\u062a\u062e", "\u062a\u0645",
    "\u062a\u0649", "\u062a\u064a", "\u062b\u062c", "\u062b\u0645", "\u062b\u0649",
    "\u062b\u064a", "\u062c\u062d", "\u062c\u0645", "\u062d\u062c", "\u062d\u0645",
    "\u062e\u062c", "\u062e\u062d", "\u062e\u0645", "\u0633\u062c", "\u0633\u062d",
    "\u0633\u062e", "\u0633\u0645", "\u0635\u062d", "\u0635\u0645", "\u0636\u062c",
    "\u0636\u062d", "\u0636\u062e", "\u0636\u0645", "\u0637\u062d", "\u0637\u0645",
    "\u0638\u0645", "\u0639\u062c", "\u0639\u0645", "\u063a\u062c", "\u063a\u0645",
    "\u0641\u062c", "\u0641\u062d", "\u0641\u062e", "\u0641\u0645", "\u0641\u0649",
    "\u0641\u064a", "\u0642\u062d", "\u0642\u0645", "\u0642\u0649", "\u0642\u064a",
    "\u0643\u0627", "\u0643\u062c", "\u0643\u062d", "\u0643\u062e", "\u0643\u0644",
    "\u0643\u0645", "\u0643\u0649", "\u0643\u064a", "\u0644\u062c", "\u0644\u062d",
    "\u0644\u062e", "\u0644\u0645", "\u0644\u0649", "\u0644\u064a", "\u0645\u062c",
    "\u0645\u062d", "\u0645\u062e", "\u0645\u0645", "\u0645\u0649", "\u0645\u064a",
    "\u0646\u062c", "\u0646\u062d", "\u0646\u062e", "\u0646\u0645", "\u0646\u0649",
    "\u0646\u064a", "\u0647\u062c", "\u0647\u0645", "\u0647\u0649", "\u0647\u064a",
    "\u064a\u062c", "\u064a\u062d", "\u064a\u062e", "\u064a\u0645", "\u064a\u0649",
    "\u064a\u064a", "\u0630\u0670", "\u0631\u0670", "\u0649\u0670", " \u064c\u0651",
    " \u064d\u0651", " \u064e\u0651", " \u064f\u0651", " \u0650\u0651", " \u0651\u0670",
    "\u0626\u0631", "\u0626\u0632", "\u0626\u0645", "\u0626\u0646", "\u0626\u0649",
    "\u0626\u064a", "\u0628\u0631", "\u0628\u0632", "\u0628\u0645", "\u0628\u0646",
    "\u0628\u0649", "\u0628\u064a", "\u062a\u0631", "\u062a\u0632", "\u062a\u0645",
    "\u062a\u0646", "\u062a\u0649", "\u062a\u064a", "\u062b\u0631", "\u062b\u0632",
    "\u062b\u0645", "\u062b\u0646", "\u062b\u0649", "\u062b\u064a", "\u0641\u0649",
    "\u0641\u064a", "\u0642\u0649", "\u0642\u064a", "\u0643\u0627", "\u0643\u0644",
    "\u0643\u0645", "\u0643\u0649", "\u0643\u064a", "\u0644\u0645", "\u0644\u0649",
    "\u0644\u064a", "\u0645\u0627", "\u0645\u0645", "\u0646\u0631", "\u0646\u0632",
    "\u0646\u0645", "\u0646\u0646", "\u0646\u0649", "\u0646\u064a", "\u0649\u0670",
    "\u064a\u0631", "\u064a\u0632", "\u064a\u0645", "\u064a\u0646", "\u064a\u0649",
    "\u064a\u064a", "\u0626\u062c", "\u0626\u062d", "\u0626\u062e", "\u0626\u0645",
    "\u0626\u0647", "\u0628\u062c", "\u0628\u062d", "\u0628\u062e", "\u0628\u0645",
    "\u0628\u0647", "\u062a\u062c", "\u062a\u062d", "\u062a\u062e", "\u062a\u0645",
    "\u062a\u0647", "\u062b\u0645", "\u062c\u062d", "\u062c\u0645", "\u062d\u062c",
    "\u062d\u0645", "\u062e\u062c", "\u062e\u0645", "\u0633\u062c", "\u0633\u062d",
    "\u0633\u062e", "\u0633\u0645", "\u0635\u062d", "\u0635\u062e", "\u0635\u0645",
    "\u0636\u062c", "\u0636\u062d", "\u0636\u062e", "\u0636\u0645", "\u0637\u062d",
    "\u0638\u0645", "\u0639\u062c", "\u0639\u0645", "\u063a\u062c", "\u063a\u0645",
    "\u0641\u062c", "\u0641\u062d", "\u0641\u062e", "\u0641\u0645", "\u0642\u062d",
    "\u0642\u0645", "\u0643\u062c", "\u0643\u062d", "\u0643\u062e", "\u0643\u0644",
    "\u0643\u0645", "\u0644\u062c", "\u0644\u062d", "\u0644\u062e", "\u0644\u0645",
    "\u0644\u0647", "\u0645\u062c", "\u0645\u062d", "\u0645\u062e", "\u0645\u0645",
    "\u0646\u062c", "\u0646\u062d", "\u0646\u062e", "\u0646\u0645", "\u0646\u0647",
    "\u0647\u062c", "\u0647\u0645", "\u0647\u0670", "\u064a\u062c", "\u064a\u062d",
    "\u064a\u062e", "\u064a\u0645", "\u064a\u0647", "\u0626\u0645", "\u0626\u0647",
    "\u0628\u0645", "\u0628\u0647", "\u062a\u0645", "\u062a\u0647", "\u062b\u0645",
    "\u062b\u0647", "\u0633\u0645", "\u0633\u0647", "\u0634\u0645", "\u0634\u0647",
    "\u0643\u0644", "\u0643\u0645", "\u0644\u0645", "\u0646\u0645", "\u0646\u0647",
    "\u064a\u0645", "\u064a\u0647", "\u0640\u064e\u0651", "\u0640\u064f\u0651",
    "\u0640\u0650\u0651", "\u0637\u0649", "\u0637\u064a", "\u0639\u0649", "\u0639\u064a",
    "\u063a\u0649", "\u063a\u064a", "\u0633\u0649", "\u0633\u064a", "\u0634\u0649",
    "\u0634\u064a", "\u062d\u0649", "\u062d\u064a", "\u062c\u0649", "\u062c\u064a",
    "\u062e\u0649", "\u062e\u064a", "\u0635\u0649", "\u0635\u064a", "\u0636\u0649",
    "\u0636\u064a", "\u0634\u062c", "\u0634\u062d", "\u0634\u062e", "\u0634\u0645",
    "\u0634\u0631", "\u0633\u0631", "\u0635\u0631", "\u0636\u0631", "\u0637\u0649",
    "\u0637\u064a", "\u0639\u0649", "\u0639\u064a", "\u063a\u0649", "\u063a\u064a",
    "\u0633\u0649", "\u0633\u064a", "\u0634\u0649", "\u0634\u064a", "\u062d\u0649",
    "\u062d\u064a", "\u062c\u0649", "\u062c\u064a", "\u062e\u0649", "\u062e\u064a",
    "\u0635\u0649", "\u0635\u064a", "\u0636\u0649", "\u0636\u064a", "\u0634\u062c",
    "\u0634\u062d", "\u0634\u062e", "\u0634\u0645", "\u0634\u0631", "\u0633\u0631",
    "\u0635\u0631", "\u0636\u0631", "\u0634\u062c", "\u0634\u062d", "\u0634\u062e",
    "\u0634\u0645", "\u0633\u0647", "\u0634\u0647", "\u0637\u0645", "\u0633\u062c",
    "\u0633\u062d", "\u0633\u062e", "\u0634\u062c", "\u0634\u062d", "\u0634\u062e",
    "\u0637\u0645", "\u0638\u0645", "\u0627\u064b", "\u0627\u064b"]),
  (0xfd50, 1, ["\u062a\u062c\u0645", "\u062a\u062d\u062c", "\u062a\u062d\u062c",
    "\u062a\u062d\u0645", "\u062a\u062e\u0645", "\u062a\u0645\u062c", "\u062a\u0645\u062d",
    "\u062a\u0645\u062e", "\u062c\u0645\u062d", "\u062c\u0645\u062d", "\u062d\u0645\u064a",
    "\u062d\u0645\u0649", "\u0633\u062d\u062c", "\u0633\u062c\u062d", "\u0633\u062c\u0649",
    "\u0633\u0645\u062d", "\u0633\u0645\u062d", "\u0633\u0645\u062c", "\u0633\u0645\u0645",
    "\u0633\u0645\u0645", "\u0635\u062d\u062d", "\u0635\u062d\u062d", "\u0635\u0645\u0645",
    "\u0634\u062d\u0645", "\u0634\u062d\u0645", "\u0634\u062c\u064a", "\u0634\u0645\u062e",
    "\u0634\u0645\u062e", "\u0634\u0645\u0645", "\u0634\u0645\u0645", "\u0636\u062d\u0649",
    "\u0636\u062e\u0645", "\u0636\u062e\u0645", "\u0637\u0645\u062d", "\u0637\u0645\u062d",
    "\u0637\u0645\u0645", "\u0637\u0645\u064a", "\u0639\u062c\u0645", "\u0639\u0645\u0645",
    "\u0639\u0645\u0645", "\u0639\u0645\u0649", "\u063a\u0645\u0645", "\u063a\u0645\u064a",
    "\u063a\u0645\u0649", "\u0641\u062e\u0645", "\u0641\u062e\u0645", "\u0642\u0645\u062d",
    "\u0642\u0645\u0645", "\u0644\u062d\u0645", "\u0644\u062d\u064a", "\u0644\u062d\u0649",
    "\u0644\u062c\u062c", "\u0644\u062c\u062c", "\u0644\u062e\u0645", "\u0644\u062e\u0645",
    "\u0644\u0645\u062d", "\u0644\u0645\u062d", "\u0645\u062d\u062c", "\u0645\u062d\u0645",
    "\u0645\u062d\u064a", "\u0645\u062c\u062d", "\u0645\u062c\u0645", "\u0645\u062e\u062c",
    "\u0645\u062e\u0645"]),
  (0xfd92, 1, ["\u0645\u062c\u062e", "\u0647\u0645\u062c", "\u0647\u0645\u0645",
    "\u0646\u062d\u0645", "\u0646\u062d\u0649", "\u0646\u062c\u0645", "\u0646\u062c\u0645",
    "\u0646\u062c\u0649", "\u0646\u0645\u064a", "\u0646\u0645\u0649", "\u064a\u0645\u0645",
    "\u064a\u0645\u0645", "\u0628\u062e\u064a", "\u062a\u062c\u064a", "\u062a\u062c\u0649",
    "\u062a\u062e\u064a", "\u062a\u062e\u0649", "\u062a\u0645\u064a", "\u062a\u0645\u0649",
    "\u062c\u0645\u064a", "\u062c\u062d\u0649", "\u062c\u0645\u0649", "\u0633\u062e\u0649",
    "\u0635\u062d\u064a", "\u0634\u062d\u064a", "\u0636\u062d\u064a", "\u0644\u062c\u064a",
    "\u0644\u0645\u064a", "\u064a\u062d\u064a", "\u064a\u062c\u064a", "\u064a\u0645\u064a",
    "\u0645\u0645\u064a", "\u0642\u0645\u064a", "\u0646\u062d\u064a", "\u0642\u0645\u062d",
    "\u0644\u062d\u0645", "\u0639\u0645\u064a", "\u0643\u0645\u064a", "\u0646\u062c\u062d",
    "\u0645\u062e\u064a", "\u0644\u062c\u0645", "\u0643\u0645\u0645", "\u0644\u062c\u0645",
    "\u0646\u062c\u062d", "\u062c\u062d\u064a", "\u062d\u062c\u064a", "\u0645\u062c\u064a",
    "\u0641\u0645\u064a", "\u0628\u062d\u064a", "\u0643\u0645\u0645", "\u0639\u062c\u0645",
    "\u0635\u0645\u0645", "\u0633\u062e\u064a", "\u0646\u062c\u064a"]),
  (0xfdf0, 1, ["\u0635\u0644\u06d2", "\u0642\u0644\u06d2", "\u0627\u0644\u0644\u0647",
    "\u0627\u0643\u0628\u0631", "\u0645\u062d\u0645\u062f", "\u0635\u0644\u0639\u0645",
    "\u0631\u0633\u0648\u0644", "\u0639\u0644\u064a\u0647", "\u0648\u0633\u0644\u0645",
    "\u0635\u0644\u0649",
    "\u0635\u0644\u0649 \u0627\u0644\u0644\u0647 \u0639\u0644\u064a\u0647 \u0648\u0633\u0644\u0645",
    "\u062c\u0644 \u062c\u0644\u0627\u0644\u0647", "\u0631\u06cc\u0627\u0644"]),
  (0xfe49, 1, [" \u0305", " \u0305", " \u0305", " \u0305"]),
  (0xfe70, 1, [" \u064b", "\u0640\u064b", " \u064c"]),
  (0xfe74, 2, [" \u064d", " \u064e"]),
  (0xfe77, 1, ["\u0640\u064e", " \u064f", "\u0640\u064f", " \u0650", "\u0640\u0650", " \u0651",
    "\u0640\u0651", " \u0652", "\u0640\u0652"]),
  (0xfef5, 1, ["\u0644\u0622", "\u0644\u0622", "\u0644\u0623", "\u0644\u0623", "\u0644\u0625",
    "\u0644\u0625", "\u0644\u0627", "\u0644\u0627"]),
  (0xffe3, 1, [" \u0304"]),
  (0x1d15e, 1, ["𝅗𝅥", "𝅘𝅥", "𝅘𝅥𝅮", "𝅘𝅥𝅯", "𝅘𝅥𝅰", "𝅘𝅥𝅱", "𝅘𝅥𝅲"]),
  (0x1d1bb, 1, ["𝆹𝅥", "𝆺𝅥", "𝆹𝅥𝅮", "𝆺𝅥𝅮", "𝆹𝅥𝅯", "𝆺𝅥𝅯"]),
  (0x1f101, 1, ["0,", "1,", "2,", "3,", "4,", "5,", "6,", "7,", "8,", "9,"]),
  (0x1f110, 1, ["(a)", "(b)", "(c)", "(d)", "(e)", "(f)", "(g)", "(h)", "(i)", "(j)", "(k)",
    "(l)", "(m)", "(n)", "(o)", "(p)", "(q)", "(r)", "(s)", "(t)", "(u)", "(v)", "(w)", "(x)",
    "(y)", "(z)", "〔s〕"]),
  (0x1f12d, 1, ["cd", "wz"]),
  (0x1f14a, 1, ["hv", "mv", "sd", "ss", "ppv", "wc"]),
  (0x1f16a, 1, ["mc", "md", "mr"]),
  (0x1f190, 1, ["dj"]),
  (0x1f200, 1, ["ほか", "ココ"]),
  (0x1f240, 1, ["〔本〕", "〔三〕", "〔二〕", "〔安〕", "〔点〕", "〔打〕", "〔盗〕", "〔勝〕",
    "〔敗〕"]) ]

def ignoredRanges : List (Nat × Nat) := [
  (0xad, 0xad), (0x34f, 0x34f), (0x115f, 0x1160), (0x17b4, 0x17b5), (0x180b, 0x180f),
  (0x200b, 0x200b), (0x2060, 0x2064), (0x206a, 0x206f), (0x3164, 0x3164), (0xfe00, 0xfe0f),
  (0xfeff, 0xfeff), (0xffa0, 0xffa0), (0x1bca0, 0x1bca3), (0x1d173, 0x1d17a), (0xe0100, 0xe01ef) ]

/-- Characters with a shape of their own that no domain name has. -/
def refusedRanges : List (Nat × Nat) := [
  (0x2024, 0x2026), (0x2488, 0x249b), (0x2ff0, 0x2ffb), (0x33c2, 0x33c2), (0x33c7, 0x33c7),
  (0x33d8, 0x33d8), (0xfe12, 0xfe12), (0xfe19, 0xfe19), (0xfe30, 0xfe30), (0xfe52, 0xfe52),
  (0xfffc, 0xfffd), (0x1f100, 0x1f100) ]

/-- The place of a character in a row that begins with `first` and goes on at a distance. -/
def place? (first distance : Nat) (c : Char) : Option Nat :=
  if first ≤ c.toNat && (c.toNat - first) % distance == 0 then some ((c.toNat - first) / distance)
  else none

def shortReplacement? (c : Char) : Option (List Char) :=
  shortReplacements.findSome? fun (first, distance, targets) => do
    let target ← targets.toList[← place? first distance c]?
    return [target]

def longReplacement? (c : Char) : Option (List Char) :=
  longReplacements.findSome? fun (first, distance, targets) => do
    let target ← targets[← place? first distance c]?
    return target.toList

/-- What stands for a character beyond ASCII in a domain name; none if it has no place there. -/
def replacement? (c : Char) : Option (List Char) :=
  match shortReplacement? c with
  | some target => some target
  | none =>
    match longReplacement? c with
    | some target => some target
    | none =>
      if Text.inRanges ignoredRanges c then some []
      else if c == '\u200c' || c == '\u200d' then some [c]
      else if !Text.isPrintable c || Text.inRanges refusedRanges c then none
      else some [c]

end ChatTelemetry.Url
