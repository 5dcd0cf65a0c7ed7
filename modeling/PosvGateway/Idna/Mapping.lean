import PosvGateway.Idna.Disallowed

/-!
# Characters that stand for others in domain names

A domain name is read without regard to case, width and similar differences: many characters stand
for others, some for nothing, as of Unicode 17. `map?` is what a character stands for.
-/

namespace PosvGateway.Idna

/-! ### Tables -/

/-- Ranges in which every other character, from the first one on, stands for its successor. -/
def alternating : Unicode.Ranges :=
  [(0x100, 0x12e), (0x134, 0x136), (0x139, 0x13d), (0x141, 0x147), (0x14a, 0x176), (0x179, 0x17d),
   (0x182, 0x184), (0x1a0, 0x1a4), (0x1b3, 0x1b5), (0x1cd, 0x1db), (0x1de, 0x1ee), (0x1f8, 0x21e),
   (0x222, 0x232), (0x246, 0x24e), (0x370, 0x372), (0x3d8, 0x3ee), (0x460, 0x480), (0x48a, 0x4be),
   (0x4c1, 0x4cd), (0x4d0, 0x52e), (0x1e00, 0x1e94), (0x1ea0, 0x1efe), (0x2c67, 0x2c6b),
   (0x2c80, 0x2ce2), (0x2ceb, 0x2ced), (0xa640, 0xa66c), (0xa680, 0xa69a), (0xa722, 0xa72e),
   (0xa732, 0xa76e), (0xa779, 0xa77b), (0xa77e, 0xa786), (0xa790, 0xa792), (0xa796, 0xa7a8),
   (0xa7b4, 0xa7c2), (0xa7c7, 0xa7c9), (0xa7cc, 0xa7da)]

/-- Characters that stand for one other: those that the characters from a code point on stand
for. -/
def images : List (Nat × String) :=
  [(0x41, "abcdefghijklmnopqrstuvwxyz"), (0xa0, " "), (0xaa, "a"), (0xb2, "23"), (0xb5, "μ"),
   (0xb9, "1o"), (0xc0, "àáâãäåæçèéêëìíîïðñòóôõö"), (0xd8, "øùúûüýþ"), (0x178, "ÿ"), (0x17f, "s"),
   (0x181, "ɓ"), (0x186, "ɔƈ"), (0x189, "ɖɗƌ"), (0x18e, "ǝəɛƒ"), (0x193, "ɠɣ"), (0x196, "ɩɨƙ"),
   (0x19c, "ɯɲ"), (0x19f, "ɵ"), (0x1a6, "ʀƨ"), (0x1a9, "ʃ"), (0x1ac, "ƭ"), (0x1ae, "ʈư"),
   (0x1b1, "ʊʋ"), (0x1b7, "ʒƹ"), (0x1bc, "ƽ"), (0x1f4, "ǵ"), (0x1f6, "ƕƿ"), (0x220, "ƞ"),
   (0x23a, "ⱥȼ"), (0x23d, "ƚⱦ"), (0x241, "ɂ"), (0x243, "ƀʉʌ"), (0x2b0, "hɦjrɹɻʁwy"),
   (0x2e0, "ɣlsxʕ"), (0x340, "\u0300\u0301"), (0x343, "\u0313"), (0x345, "ι"), (0x374, "\u02b9"),
   (0x376, "ͷ"), (0x37e, ";ϳ"), (0x386, "ά\u00b7έήί"), (0x38c, "ό"), (0x38e, "ύώ"),
   (0x391, "αβγδεζηθικλμνξοπρ"), (0x3a3, "στυφχψωϊϋ"), (0x3cf, "ϗβθυύϋφπ"), (0x3f0, "κρσ"),
   (0x3f4, "θε"), (0x3f7, "ϸ"), (0x3f9, "σϻ"),
   (0x3fd, "ͻͼͽѐёђѓєѕіїјљњћќѝўџабвгдежзийклмнопрстуфхцчш"), (0x429, "щъыьэюя"), (0x4c0, "ӏ"),
   (0x531, "աբգդեզէըթժիլխծկհձղճմյնշոչպջռսվտրցւփքօֆ"), (0xf0c, "\u0f0b"),
   (0x10a0, "ⴀⴁⴂⴃⴄⴅⴆⴇⴈⴉⴊⴋⴌⴍⴎⴏⴐⴑⴒⴓⴔⴕⴖⴗⴘⴙⴚⴛⴜⴝⴞⴟⴠⴡⴢⴣⴤⴥ"), (0x10c7, "ⴧ"), (0x10cd, "ⴭ"),
   (0x10fc, "ნ"), (0x13f8, "ᏰᏱᏲᏳᏴᏵ"), (0x1c80, "вдосттъѣꙋᲊ"),
   (0x1c90, "აბგდევზთიკლმნოპჟრსტუფქღყშჩცძწჭხჯჰჱჲჳჴჵჶჷჸჹჺ"), (0x1cbd, "ჽჾჿ"), (0x1d2c, "aæb"),
   (0x1d30, "deǝghijklmn"), (0x1d3c, "oȣprtuwaɐɑᴂbdeəɛɜg"),
   (0x1d4f, "kmŋoɔᴖᴗptuᴝɯvᴥβγδφχiruvβγρφχ"), (0x1d78, "н"),
   (0x1d9b, "ɒcɕðɜfɟɡɥɨɩɪᵻʝɭᶅʟɱɰɲɳɴɵɸʂʃƫʉʊᴜʋʌzʐʑʒθ"), (0x1e9b, "ṡ"), (0x1e9e, "ß"),
   (0x1f08, "ἀἁἂἃἄἅἆἇ"), (0x1f18, "ἐἑἒἓἔἕ"), (0x1f28, "ἠἡἢἣἤἥἦἧ"), (0x1f38, "ἰἱἲἳἴἵἶἷ"),
   (0x1f48, "ὀὁὂὃὄὅ"), (0x1f59, "ὑ"), (0x1f5b, "ὓ"), (0x1f5d, "ὕ"), (0x1f5f, "ὗ"),
   (0x1f68, "ὠὡὢὣὤὥὦὧ"), (0x1f71, "ά"), (0x1f73, "έ"), (0x1f75, "ή"), (0x1f77, "ί"),
   (0x1f79, "ό"), (0x1f7b, "ύ"), (0x1f7d, "ώ"), (0x1fb8, "ᾰᾱὰά"), (0x1fbe, "ι"), (0x1fc8, "ὲέὴή"),
   (0x1fd3, "ΐ"), (0x1fd8, "ῐῑὶί"), (0x1fe3, "ΰ"), (0x1fe8, "ῠῡὺύῥ"), (0x1fef, "\x60"),
   (0x1ff8, "ὸόὼώ"), (0x2000, "           "), (0x2011, "\u2010"), (0x202f, " "), (0x205f, " "),
   (0x2070, "0i"), (0x2074, "456789+−=()n0123456789+−=()"), (0x2090, "aeoxəhklmnpst"),
   (0x2102, "c"), (0x2107, "ɛ"), (0x210a, "ghhhhħiill"), (0x2115, "n"), (0x2119, "pqrrr"),
   (0x2124, "z"), (0x2126, "ω"), (0x2128, "z"), (0x212a, "kåbc"),
   (0x212f, "eefⅎmo\u05d0\u05d1\u05d2\u05d3i"), (0x213c, "πγγπ∑"), (0x2145, "ddeij"),
   (0x2160, "i"), (0x2164, "v"), (0x2169, "x"), (0x216c, "lcdmi"), (0x2174, "v"), (0x2179, "x"),
   (0x217c, "lcdm"), (0x2183, "ↄ"), (0x2329, "\u3008\u3009"), (0x2460, "123456789"),
   (0x24b6, "abcdefghijklmnopqrstuvwxyzabcdefghijklmnopqr"), (0x24e2, "stuvwxyz0"),
   (0x2c00, "ⰰⰱⰲⰳⰴⰵⰶⰷⰸⰹⰺⰻⰼⰽⰾⰿⱀⱁⱂⱃⱄⱅⱆⱇⱈⱉⱊⱋⱌⱍⱎⱏⱐⱑⱒⱓⱔⱕⱖⱗⱘⱙⱚⱛ"), (0x2c2c, "ⱜⱝⱞⱟ"), (0x2c60, "ⱡ"),
   (0x2c62, "ɫᵽɽ"), (0x2c6d, "ɑɱɐɒ"), (0x2c72, "ⱳ"), (0x2c75, "ⱶ"), (0x2c7c, "jvȿɀ"),
   (0x2cf2, "ⳳ"), (0x2d6f, "ⵡ"), (0x2e9f, "母"), (0x2ef3, "龟"),
   (0x2f00, "一丨丶丿乙亅二亠人儿入八冂冖冫几凵刀力勹匕匚匸十卜卩厂厶又口囗土士夂夊夕大女子宀寸小尢尸"),
   (0x2f2c, "屮山巛工己巾干幺广廴廾弋弓彐彡彳心戈戶手支攴文斗斤方无日曰月木欠止歹殳毋比毛氏气水火爪父"),
   (0x2f58, "爻爿片牙牛犬玄玉瓜瓦甘生用田疋疒癶白皮皿目矛矢石示禸禾穴立竹米糸缶网羊羽老而耒耳聿肉臣自"),
   (0x2f84, "至臼舌舛舟艮色艸虍虫血行衣襾見角言谷豆豕豸貝赤走足身車辛辰辵邑酉釆里金長門阜隶隹雨靑非面"),
   (0x2fb0, "革韋韭音頁風飛食首香馬骨高髟鬥鬯鬲鬼魚鳥鹵鹿麥麻黃黍黑黹黽鼎鼓鼠鼻齊齒龍龜龠"), (0x3000, " "), (0x3002, "."),
   (0x3036, "〒"), (0x3038, "十卄卅"), (0x3131, "ᄀᄁᆪᄂᆬᆭᄃᄄᄅᆰᆱᆲᆳᆴᆵᄚᄆᄇᄈᄡᄉᄊᄋᄌᄍᄎᄏᄐᄑ하ᅢᅣᅤᅥᅦᅧᅨᅩᅪᅫᅬᅭᅮ"),
   (0x315d, "ᅯᅰᅱᅲᅳᅴᅵ"), (0x3165, "ᄔᄕᇇᇈᇌᇎᇓᇗᇙᄜᇝᇟᄝᄞᄠᄢᄣᄧᄩᄫᄬᄭᄮᄯᄲᄶᅀᅇᅌᇱᇲᅗᅘᅙᆄᆅᆈᆑᆒᆔᆞᆡ"),
   (0x3192, "一二三四上中下甲乙丙丁天地人"), (0x3244, "問幼文箏"), (0x3260, "ᄀᄂᄃᄅᄆᄇᄉᄋᄌᄎᄏᄐᄑᄒ가나다라마바사아자차카타파하"),
   (0x327e, "우"), (0x3280, "一二三四五六七八九十月火水木金土日株有社名特財祝労秘男女適優印注項休写正上中下左右医宗学"), (0x32ac, "監企資協夜"),
   (0x32d0, "アイウエオカキクケコサシスセソタチツテトナニヌネノハヒフヘホマミムメモヤユヨラリルレロワ"), (0x32fc, "ヰヱヲ"), (0xa69c, "ъь"),
   (0xa770, "ꝯ"), (0xa77d, "ᵹ"), (0xa78b, "ꞌ"), (0xa78d, "ɥ"), (0xa7aa, "ɦɜɡɬɪ"),
   (0xa7b0, "ʞʇʝꭓ"), (0xa7c4, "ꞔʂᶎ"), (0xa7cb, "ɤ"), (0xa7dc, "ƛ"), (0xa7f1, "scfqꟶ"),
   (0xa7f8, "ħœ"), (0xab5c, "ꜧꬷɫꭒ"), (0xab69, "ʍ"),
   (0xab70, "ᎠᎡᎢᎣᎤᎥᎦᎧᎨᎩᎪᎫᎬᎭᎮᎯᎰᎱᎲᎳᎴᎵᎶᎷᎸᎹᎺᎻᎼᎽᎾᎿᏀᏁᏂᏃᏄᏅᏆᏇᏈᏉᏊᏋ"),
   (0xab9c, "ᏌᏍᏎᏏᏐᏑᏒᏓᏔᏕᏖᏗᏘᏙᏚᏛᏜᏝᏞᏟᏠᏡᏢᏣᏤᏥᏦᏧᏨᏩᏪᏫᏬᏭᏮᏯ"),
   (0xf900, "豈更車賈滑串句龜龜契金喇奈懶癩羅蘿螺裸邏樂洛烙珞落酪駱亂卵欄爛蘭鸞嵐濫藍襤拉臘蠟廊朗浪狼"),
   (0xf92c, "郎來冷勞擄櫓爐盧老蘆虜路露魯鷺碌祿綠菉錄鹿論壟弄籠聾牢磊賂雷壘屢樓淚漏累縷陋勒肋凜凌稜綾"),
   (0xf958, "菱陵讀拏樂諾丹寧怒率異北磻便復不泌數索參塞省葉說殺辰沈拾若掠略亮兩凉梁糧良諒量勵呂女廬旅"),
   (0xf984, "濾礪閭驪麗黎力曆歷轢年憐戀撚漣煉璉秊練聯輦蓮連鍊列劣咽烈裂說廉念捻殮簾獵令囹寧嶺怜玲瑩羚"),
   (0xf9b0, "聆鈴零靈領例禮醴隸惡了僚寮尿料樂燎療蓼遼龍暈阮劉杻柳流溜琉留硫紐類六戮陸倫崙淪輪律慄栗率"),
   (0xf9dc, "隆利吏履易李梨泥理痢罹裏裡里離匿溺吝燐璘藺隣鱗麟林淋臨立笠粒狀炙識什茶刺切度拓糖宅洞暴輻"), (0xfa08, "行降見廓兀嗀"), (0xfa10, "塚"),
   (0xfa12, "晴"), (0xfa15, "凞猪益礼神祥福靖精羽"), (0xfa20, "蘒"), (0xfa22, "諸"), (0xfa25, "逸都"),
   (0xfa2a, "飯飼館鶴郞隷侮僧免勉勤卑喝嘆器塀墨層屮悔慨憎懲敏既暑梅海渚漢煮爫琢碑社祉祈祐祖祝禍禎穀突"), (0xfa56, "節練縉繁署者臭艹艹著褐視謁謹賓贈辶逸難響頻恵𤋮舘"),
   (0xfa70, "並况全侀充冀勇勺喝啕喙嗢塚墳奄奔婢嬨廒廙彩徭惘慎愈憎慠懲戴揄搜摒敖晴朗望杖歹殺流滛滋漢瀞"),
   (0xfa9c, "煮瞧爵犯猪瑱甆画瘝瘟益盛直睊着磌窱節类絛練缾者荒華蝹襁覆視調諸請謁諾諭謹變贈輸遲醙鉶陼難"), (0xfac8, "靖韛響頋頻鬒龜𢡊𢡄𣏕㮝䀘䀹𥉉𥳐𧻓齃龎"),
   (0xfb20, "\u05e2\u05d0\u05d3\u05d4\u05db\u05dc\u05dd\u05e8\u05ea+"),
   (0xfb50, "\u0671\u0671\u067b\u067b\u067b\u067b\u067e\u067e\u067e\u067e\u0680\u0680"),
   (0xfb5c, "\u0680\u0680\u067a\u067a\u067a\u067a\u067f\u067f\u067f\u067f\u0679\u0679"),
   (0xfb68, "\u0679\u0679\u06a4\u06a4\u06a4\u06a4\u06a6\u06a6\u06a6\u06a6\u0684\u0684"),
   (0xfb74, "\u0684\u0684\u0683\u0683\u0683\u0683\u0686\u0686\u0686\u0686\u0687\u0687"),
   (0xfb80, "\u0687\u0687\u068d\u068d\u068c\u068c\u068e\u068e\u0688\u0688\u0698\u0698"),
   (0xfb8c, "\u0691\u0691\u06a9\u06a9\u06a9\u06a9\u06af\u06af\u06af\u06af\u06b3\u06b3"),
   (0xfb98, "\u06b3\u06b3\u06b1\u06b1\u06b1\u06b1\u06ba\u06ba\u06bb\u06bb\u06bb\u06bb"),
   (0xfba4, "\u06c0\u06c0\u06c1\u06c1\u06c1\u06c1\u06be\u06be\u06be\u06be\u06d2\u06d2"),
   (0xfbb0, "\u06d3\u06d3"),
   (0xfbd3, "\u06ad\u06ad\u06ad\u06ad\u06c7\u06c7\u06c6\u06c6\u06c8\u06c8"),
   (0xfbde, "\u06cb\u06cb\u06c5\u06c5\u06c9\u06c9\u06d0\u06d0\u06d0\u06d0\u0649\u0649"),
   (0xfbfc, "\u06cc\u06cc\u06cc\u06cc"), (0xfe10, ",\u3001"), (0xfe13, ":;!?\u3016\u3017"),
   (0xfe31, "\u2014\u2013__()\x7b\x7d\u3014\u3015\u3010\u3011\u300a\u300b\u3008\u3009"),
   (0xfe41, "\u300c\u300d\u300e\u300f"), (0xfe47, "[]"), (0xfe4d, "___,\u3001"),
   (0xfe54, ";:?!\u2014()\x7b\x7d\u3014\u3015#&*+-<>="), (0xfe68, "\x5c$%@"),
   (0xfe80, "\u0621\u0622\u0622\u0623\u0623\u0624\u0624\u0625\u0625\u0626\u0626\u0626"),
   (0xfe8c, "\u0626\u0627\u0627\u0628\u0628\u0628\u0628\u0629\u0629\u062a\u062a\u062a"),
   (0xfe98, "\u062a\u062b\u062b\u062b\u062b\u062c\u062c\u062c\u062c\u062d\u062d\u062d"),
   (0xfea4, "\u062d\u062e\u062e\u062e\u062e\u062f\u062f\u0630\u0630\u0631\u0631\u0632"),
   (0xfeb0, "\u0632\u0633\u0633\u0633\u0633\u0634\u0634\u0634\u0634\u0635\u0635\u0635"),
   (0xfebc, "\u0635\u0636\u0636\u0636\u0636\u0637\u0637\u0637\u0637\u0638\u0638\u0638"),
   (0xfec8, "\u0638\u0639\u0639\u0639\u0639\u063a\u063a\u063a\u063a\u0641\u0641\u0641"),
   (0xfed4, "\u0641\u0642\u0642\u0642\u0642\u0643\u0643\u0643\u0643\u0644\u0644\u0644"),
   (0xfee0, "\u0644\u0645\u0645\u0645\u0645\u0646\u0646\u0646\u0646\u0647\u0647\u0647"),
   (0xfeec, "\u0647\u0648\u0648\u0649\u0649\u064a\u064a\u064a\u064a"),
   (0xff01, "!\x22#$%&\x27()*+,-./0123456789:;<=>?@abcdefghijkl"),
   (0xff2d, "mnopqrstuvwxyz[\x5c]^_\x60abcdefghijklmnopqrstuvwx"),
   (0xff59, "yz\x7b|\x7d~\u2985\u2986.\u300c\u300d\u3001\u30fbヲァィゥェォャュョッ\u30fcアイウエオカキ"),
   (0xff78, "クケコサシスセソタチツテトナニヌネノハヒフヘホマミムメモヤユヨラリルレロワン\u3099\u309a"),
   (0xffa1, "ᄀᄁᆪᄂᆬᆭᄃᄄᄅᆰᆱᆲᆳᆴᆵᄚᄆᄇᄈᄡᄉᄊᄋᄌᄍᄎᄏᄐᄑᄒ"), (0xffc2, "ᅡᅢᅣᅤᅥᅦ"), (0xffca, "ᅧᅨᅩᅪᅫᅬ"),
   (0xffd2, "ᅭᅮᅯᅰᅱᅲ"), (0xffda, "ᅳᅴᅵ"), (0xffe0, "¢£¬"), (0xffe4, "¦¥₩"), (0xffe8, "│←↑→↓■○"),
   (0x10400, "𐐨𐐩𐐪𐐫𐐬𐐭𐐮𐐯𐐰𐐱𐐲𐐳𐐴𐐵𐐶𐐷𐐸𐐹𐐺𐐻𐐼𐐽𐐾𐐿𐑀𐑁𐑂𐑃𐑄𐑅𐑆𐑇𐑈𐑉𐑊𐑋𐑌𐑍𐑎𐑏"),
   (0x104b0, "𐓘𐓙𐓚𐓛𐓜𐓝𐓞𐓟𐓠𐓡𐓢𐓣𐓤𐓥𐓦𐓧𐓨𐓩𐓪𐓫𐓬𐓭𐓮𐓯𐓰𐓱𐓲𐓳𐓴𐓵𐓶𐓷𐓸𐓹𐓺𐓻"), (0x10570, "𐖗𐖘𐖙𐖚𐖛𐖜𐖝𐖞𐖟𐖠𐖡"),
   (0x1057c, "𐖣𐖤𐖥𐖦𐖧𐖨𐖩𐖪𐖫𐖬𐖭𐖮𐖯𐖰𐖱"), (0x1058c, "𐖳𐖴𐖵𐖶𐖷𐖸𐖹"), (0x10594, "𐖻𐖼"),
   (0x10781, "\u02d0\u02d1æʙɓ"), (0x10787, "ʣꭦʥʤɖɗᶑɘɞʩɤɢɠʛħʜɧʄʪʫɬ𝼄ꞎɮ𝼅ʎ𝼆øɶɷqɺ𝼈ɽɾʀʨʦꭧʧʈⱱ"),
   (0x107b2, "ʏʡʢʘǀǁǂ𝼊𝼞"), (0x10c80, "𐳀𐳁𐳂𐳃𐳄𐳅𐳆𐳇𐳈𐳉𐳊𐳋𐳌𐳍𐳎𐳏𐳐𐳑𐳒𐳓𐳔𐳕𐳖𐳗𐳘𐳙𐳚𐳛𐳜𐳝𐳞𐳟𐳠𐳡𐳢𐳣𐳤𐳥𐳦𐳧𐳨𐳩𐳪𐳫"),
   (0x10cac, "𐳬𐳭𐳮𐳯𐳰𐳱𐳲"), (0x10d50, "𐵰𐵱𐵲𐵳𐵴𐵵𐵶𐵷𐵸𐵹𐵺𐵻𐵼𐵽𐵾𐵿𐶀𐶁𐶂𐶃𐶄𐶅"),
   (0x118a0, "𑣀𑣁𑣂𑣃𑣄𑣅𑣆𑣇𑣈𑣉𑣊𑣋𑣌𑣍𑣎𑣏𑣐𑣑𑣒𑣓𑣔𑣕𑣖𑣗𑣘𑣙𑣚𑣛𑣜𑣝𑣞𑣟"), (0x16e40, "𖹠𖹡𖹢𖹣𖹤𖹥𖹦𖹧𖹨𖹩𖹪𖹫𖹬𖹭𖹮𖹯𖹰𖹱𖹲𖹳𖹴𖹵𖹶𖹷𖹸𖹹𖹺𖹻𖹼𖹽𖹾𖹿"),
   (0x16ea0, "𖺻𖺼𖺽𖺾𖺿𖻀𖻁𖻂𖻃𖻄𖻅𖻆𖻇𖻈𖻉𖻊𖻋𖻌𖻍𖻎𖻏𖻐𖻑𖻒𖻓"), (0x1ccd6, "abcdefghijklmnopqrstuvwxyz0123456789"),
   (0x1d400, "abcdefghijklmnopqrstuvwxyzabcdefghijklmnopqr"),
   (0x1d42c, "stuvwxyzabcdefghijklmnopqrstuvwxyzabcdefg"),
   (0x1d456, "ijklmnopqrstuvwxyzabcdefghijklmnopqrstuvwxyz"),
   (0x1d482, "abcdefghijklmnopqrstuvwxyza"), (0x1d49e, "cd"), (0x1d4a2, "g"), (0x1d4a5, "jk"),
   (0x1d4a9, "nopq"), (0x1d4ae, "stuvwxyzabcd"), (0x1d4bb, "f"), (0x1d4bd, "hijklmn"),
   (0x1d4c5, "pqrstuvwxyzabcdefghijklmnopqrstuvwxyzabcdefg"), (0x1d4f1, "hijklmnopqrstuvwxyzab"),
   (0x1d507, "defg"), (0x1d50d, "jklmnopq"), (0x1d516, "stuvwxy"),
   (0x1d51e, "abcdefghijklmnopqrstuvwxyzab"), (0x1d53b, "defg"), (0x1d540, "ijklm"),
   (0x1d546, "o"), (0x1d54a, "stuvwxy"),
   (0x1d552, "abcdefghijklmnopqrstuvwxyzabcdefghijklmnopqr"),
   (0x1d57e, "stuvwxyzabcdefghijklmnopqrstuvwxyzabcdefghij"),
   (0x1d5aa, "klmnopqrstuvwxyzabcdefghijklmnopqrstuvwxyzab"),
   (0x1d5d6, "cdefghijklmnopqrstuvwxyzabcdefghijklmnopqrst"),
   (0x1d602, "uvwxyzabcdefghijklmnopqrstuvwxyzabcdefghijkl"),
   (0x1d62e, "mnopqrstuvwxyzabcdefghijklmnopqrstuvwxyzabcd"),
   (0x1d65a, "efghijklmnopqrstuvwxyzabcdefghijklmnopqrstuv"),
   (0x1d686, "wxyzabcdefghijklmnopqrstuvwxyzıȷ"),
   (0x1d6a8, "αβγδεζηθικλμνξοπρθστυφχψω∇αβγδεζηθικλμνξοπρσ"),
   (0x1d6d4, "στυφχψω∂εθκφρπαβγδεζηθικλμνξοπρθστυφχψω∇αβγδ"),
   (0x1d700, "εζηθικλμνξοπρσστυφχψω∂εθκφρπαβγδεζηθικλμνξοπ"),
   (0x1d72c, "ρθστυφχψω∇αβγδεζηθικλμνξοπρσστυφχψω∂εθκφρπαβ"),
   (0x1d758, "γδεζηθικλμνξοπρθστυφχψω∇αβγδεζηθικλμνξοπρσστ"),
   (0x1d784, "υφχψω∂εθκφρπαβγδεζηθικλμνξοπρθστυφχψω∇αβγδεζ"),
   (0x1d7b0, "ηθικλμνξοπρσστυφχψω∂εθκφρπϝϝ"),
   (0x1d7ce, "01234567890123456789012345678901234567890123"), (0x1d7fa, "456789"),
   (0x1e030, "абвгдежзиклмопрстуфхцчшыэюꚉәіјөүӏабвгдежзикл"), (0x1e05c, "опсуфхцчшъыґіѕџҫꙑұ"),
   (0x1e900, "𞤢𞤣𞤤𞤥𞤦𞤧𞤨𞤩𞤪𞤫𞤬𞤭𞤮𞤯𞤰𞤱𞤲𞤳𞤴𞤵𞤶𞤷𞤸𞤹𞤺𞤻𞤼𞤽𞤾𞤿𞥀𞥁𞥂𞥃"), (0x1ee00, "\u0627\u0628\u062c\u062f"),
   (0x1ee05, "\u0648\u0632\u062d\u0637\u064a\u0643\u0644\u0645\u0646\u0633\u0639\u0641"),
   (0x1ee11, "\u0635\u0642\u0631\u0634\u062a\u062b\u062e\u0630\u0636\u0638\u063a\u066e"),
   (0x1ee1d, "\u06ba\u06a1\u066f"), (0x1ee21, "\u0628\u062c"), (0x1ee24, "\u0647"),
   (0x1ee27, "\u062d"), (0x1ee29, "\u064a\u0643\u0644\u0645\u0646\u0633\u0639\u0641\u0635\u0642"),
   (0x1ee34, "\u0634\u062a\u062b\u062e"), (0x1ee39, "\u0636"), (0x1ee3b, "\u063a"),
   (0x1ee42, "\u062c"), (0x1ee47, "\u062d"), (0x1ee49, "\u064a"), (0x1ee4b, "\u0644"),
   (0x1ee4d, "\u0646\u0633\u0639"), (0x1ee51, "\u0635\u0642"), (0x1ee54, "\u0634"),
   (0x1ee57, "\u062e"), (0x1ee59, "\u0636"), (0x1ee5b, "\u063a"), (0x1ee5d, "\u06ba"),
   (0x1ee5f, "\u066f"), (0x1ee61, "\u0628\u062c"), (0x1ee64, "\u0647"),
   (0x1ee67, "\u062d\u0637\u064a\u0643"), (0x1ee6c, "\u0645\u0646\u0633\u0639\u0641\u0635\u0642"),
   (0x1ee74, "\u0634\u062a\u062b\u062e"), (0x1ee79, "\u0636\u0638\u063a\u066e"),
   (0x1ee7e, "\u06a1"), (0x1ee80, "\u0627\u0628\u062c\u062f\u0647\u0648\u0632\u062d\u0637\u064a"),
   (0x1ee8b, "\u0644\u0645\u0646\u0633\u0639\u0641\u0635\u0642\u0631\u0634\u062a\u062b"),
   (0x1ee97, "\u062e\u0630\u0636\u0638\u063a"), (0x1eea1, "\u0628\u062c\u062f"),
   (0x1eea5, "\u0648\u0632\u062d\u0637\u064a"),
   (0x1eeab, "\u0644\u0645\u0646\u0633\u0639\u0641\u0635\u0642\u0631\u0634\u062a\u062b"),
   (0x1eeb7, "\u062e\u0630\u0636\u0638\u063a"), (0x1f12b, "cr"),
   (0x1f130, "abcdefghijklmnopqrstuvwxyz"), (0x1f202, "サ"),
   (0x1f210, "手字双デ二多解天交映無料前後再新初終生販声吹演投捕一三遊左中右指走打禁空合満有月申割営配"), (0x1f250, "得可"),
   (0x1fbf0, "0123456789"), (0x2f800, "丽丸乁𠄢你侮侻倂偺備僧像㒞𠘺免兔兤具𠔜㒹內再𠕋冗冤仌冬况𩇟凵刃㓟刻剆割剷㔕勇勉勤勺包匆北"),
   (0x2f82c, "卉卑博即卽卿卿卿𠨬灰及叟𠭣叫叱吆咞吸呈周咢哶唐啓啣善善喙喫喳嗂圖嘆圗噑噴切壮城埴堍型堲報"),
   (0x2f858, "墬𡓤売壷夆多夢奢𡚨𡛪姬娛娧姘婦㛮㛼嬈嬾嬾𡧈寃寘寧寳𡬘寿将当尢㞁屠屮峀岍𡷤嵃𡷦嵮嵫嵼巡巢㠯"),
   (0x2f884, "巽帨帽幩㡢𢆃㡼庰庳庶廊𪎒廾𢌱𢌱舁弢弢㣇𣊸𦇚形彫㣣徚忍志忹悁㤺㤜悔𢛔惇慈慌慎慌慺憎憲憤憯懞"),
   (0x2f8b0, "懲懶成戛扝抱拔捐𢬌挽拼捨掃揤𢯱搢揅掩㨮摩摾撝摷㩬敏敬𣀊旣書晉㬙暑㬈㫤冒冕最暜肭䏙朗望朡杞"),
   (0x2f8dc, "杓𣏃㭉柺枅桒梅𣑭梎栟椔㮝楂榣槪檨𣚣櫛㰘次𣢧歔㱎歲殟殺殻𣪍𡴋𣫺汎𣲼沿泍汧洖派海流浩浸涅𣴞洴"),
   (0x2f908, "港湮㴳滋滇𣻑淹潮𣽞𣾎濆瀹瀞瀛㶖灊災灷炭𠔥煅𤉣熜𤎫爨爵牐𤘈犀犕𤜵𤠔獺王㺬玥㺸㺸瑇瑜瑱璅瓊㼛"),
   (0x2f934, "甤𤰶甾𤲒異𢆟瘐𤾡𤾸𥁄㿼䀈直𥃳𥃲𥄙𥄳眞真真睊䀹瞋䁆䂖𥐝硎碌磌䃣𥘦祖𥚚𥛅福秫䄯穀穊穏𥥼𥪧𥪧竮"),
   (0x2f960, "䈂𥮫篆築䈧𥲀糒䊠糨糣紀𥾆絣䌁緇縂繅䌴𦈨𦉇䍙𦋙罺𦌾羕翺者𦓚𦔣聠𦖨聰𣍟䏕育脃䐋脾媵𦞧𦞵𣎓𣎜舁"),
   (0x2f98c, "舄辞䑫芑芋芝劳花芳芽苦𦬼若茝荣莭茣莽菧著荓菊菌菜𦰶𦵫𦳕䔫蓱蓳蔖𧏊蕤𦼬䕝䕡𦾱𧃒䕫虐虜虧虩蚩"),
   (0x2f9b8, "蚈蜎蛢蝹蜨蝫螆䗗蟡蠁䗹衠衣𧙧裗裞䘵裺㒻𧢮𧥦䚾䛇誠諭變豕𧲨貫賁贛起𧼯𠠄跋趼跰𠣞軔輸𨗒𨗭邔郱"),
   (0x2f9e4, "鄑𨜮鄛鈸鋗鋘鉼鏹鐕𨯺開䦕閷𨵷䧦雃嶲霣𩅅𩈚䩮䩶韠𩐊䪲𩒖頋頋頩𩖶飢䬳餩馧駂駾䯎𩬰鬒鱀鳽䳎䳭鵧"), (0x2fa10, "𪃎䳸𪄅𪈎𪊑麻䵖黹黾鼅鼏鼖鼻𪘀")]

/-- Characters that stand for several others: what the characters from a code point on stand for. -/
def expansions : List (Nat × List String) :=
  [(0xa8, [" \u0308"]), (0xaf, [" \u0304"]), (0xb4, [" \u0301"]), (0xb8, [" \u0327"]),
   (0xbc, ["1⁄4", "1⁄2", "3⁄4"]), (0x130, ["i\u0307"]), (0x132, ["ij", "ij"]),
   (0x13f, ["l\u00b7", "l\u00b7"]), (0x149, ["\u02bcn"]),
   (0x1c4, ["dž", "dž", "dž", "lj", "lj", "lj", "nj", "nj", "nj"]), (0x1f1, ["dz", "dz", "dz"]),
   (0x2d8, [" \u0306", " \u0307", " \u030a", " \u0328", " \u0303", " \u030b"]),
   (0x344, ["\u0308\u0301"]), (0x37a, [" ι"]), (0x384, [" \u0301", " \u0308\u0301"]),
   (0x587, ["եւ"]), (0x675, ["\u0627\u0674", "\u0648\u0674", "\u06c7\u0674", "\u064a\u0674"]),
   (0x958, ["क\u093c", "ख\u093c", "ग\u093c", "ज\u093c", "ड\u093c", "ढ\u093c", "फ\u093c"]),
   (0x95f, ["य\u093c"]), (0x9dc, ["ড\u09bc", "ঢ\u09bc"]), (0x9df, ["য\u09bc"]),
   (0xa33, ["ਲ\u0a3c"]), (0xa36, ["ਸ\u0a3c"]), (0xa59, ["ਖ\u0a3c", "ਗ\u0a3c", "ਜ\u0a3c"]),
   (0xa5e, ["ਫ\u0a3c"]), (0xb5c, ["ଡ\u0b3c", "ଢ\u0b3c"]), (0xe33, ["\u0e4dา"]),
   (0xeb3, ["\u0ecdາ"]), (0xedc, ["ຫນ", "ຫມ"]), (0xf43, ["ག\u0fb7"]), (0xf4d, ["ཌ\u0fb7"]),
   (0xf52, ["ད\u0fb7"]), (0xf57, ["བ\u0fb7"]), (0xf5c, ["ཛ\u0fb7"]), (0xf69, ["ཀ\u0fb5"]),
   (0xf73, ["\u0f71\u0f72"]),
   (0xf75, ["\u0f71\u0f74", "\u0fb2\u0f80", "\u0fb2\u0f71\u0f80", "\u0fb3\u0f80"]),
   (0xf79, ["\u0fb3\u0f71\u0f80"]), (0xf81, ["\u0f71\u0f80"]), (0xf93, ["\u0f92\u0fb7"]),
   (0xf9d, ["\u0f9c\u0fb7"]), (0xfa2, ["\u0fa1\u0fb7"]), (0xfa7, ["\u0fa6\u0fb7"]),
   (0xfac, ["\u0fab\u0fb7"]), (0xfb9, ["\u0f90\u0fb5"]), (0x1e9a, ["a\u02be"]),
   (0x1f80, ["ἀι", "ἁι", "ἂι", "ἃι", "ἄι", "ἅι", "ἆι", "ἇι", "ἀι", "ἁι", "ἂι", "ἃι", "ἄι"]),
   (0x1f8d, ["ἅι", "ἆι", "ἇι", "ἠι", "ἡι", "ἢι", "ἣι", "ἤι", "ἥι", "ἦι", "ἧι", "ἠι", "ἡι"]),
   (0x1f9a, ["ἢι", "ἣι", "ἤι", "ἥι", "ἦι", "ἧι", "ὠι", "ὡι", "ὢι", "ὣι", "ὤι", "ὥι", "ὦι"]),
   (0x1fa7, ["ὧι", "ὠι", "ὡι", "ὢι", "ὣι", "ὤι", "ὥι", "ὦι", "ὧι"]), (0x1fb2, ["ὰι", "αι", "άι"]),
   (0x1fb7, ["ᾶι"]), (0x1fbc, ["αι", " \u0313"]),
   (0x1fbf, [" \u0313", " \u0342", " \u0308\u0342", "ὴι", "ηι", "ήι"]), (0x1fc7, ["ῆι"]),
   (0x1fcc, ["ηι", " \u0313\u0300", " \u0313\u0301", " \u0313\u0342"]),
   (0x1fdd, [" \u0314\u0300", " \u0314\u0301", " \u0314\u0342"]),
   (0x1fed, [" \u0308\u0300", " \u0308\u0301"]), (0x1ff2, ["ὼι", "ωι", "ώι"]), (0x1ff7, ["ῶι"]),
   (0x1ffc, ["ωι", " \u0301", " \u0314"]), (0x2017, [" \u0333"]),
   (0x2033, ["\u2032\u2032", "\u2032\u2032\u2032"]),
   (0x2036, ["\u2035\u2035", "\u2035\u2035\u2035"]), (0x203c, ["!!"]), (0x203e, [" \u0305"]),
   (0x2047, ["??", "?!", "!?"]), (0x2057, ["\u2032\u2032\u2032\u2032"]), (0x20a8, ["rs"]),
   (0x2100, ["a/c", "a/s"]), (0x2103, ["°c"]), (0x2105, ["c/o", "c/u"]), (0x2109, ["°f"]),
   (0x2116, ["no"]), (0x2120, ["sm", "tel", "tm"]), (0x213b, ["fax"]),
   (0x2150, ["1⁄7", "1⁄9", "1⁄10", "1⁄3", "2⁄3", "1⁄5", "2⁄5", "3⁄5", "4⁄5", "1⁄6", "5⁄6"]),
   (0x215b, ["1⁄8", "3⁄8", "5⁄8", "7⁄8", "1⁄"]), (0x2161, ["ii", "iii", "iv"]),
   (0x2165, ["vi", "vii", "viii", "ix"]), (0x216a, ["xi", "xii"]), (0x2171, ["ii", "iii", "iv"]),
   (0x2175, ["vi", "vii", "viii", "ix"]), (0x217a, ["xi", "xii"]), (0x2189, ["0⁄3"]),
   (0x222c, ["∫∫", "∫∫∫"]), (0x222f, ["∮∮", "∮∮∮"]),
   (0x2469, ["10", "11", "12", "13", "14", "15", "16", "17", "18", "19", "20", "(1)", "(2)"]),
   (0x2476, ["(3)", "(4)", "(5)", "(6)", "(7)", "(8)", "(9)", "(10)", "(11)", "(12)", "(13)"]),
   (0x2481, ["(14)", "(15)", "(16)", "(17)", "(18)", "(19)", "(20)"]),
   (0x249c, ["(a)", "(b)", "(c)", "(d)", "(e)", "(f)", "(g)", "(h)", "(i)", "(j)", "(k)"]),
   (0x24a7, ["(l)", "(m)", "(n)", "(o)", "(p)", "(q)", "(r)", "(s)", "(t)", "(u)", "(v)"]),
   (0x24b2, ["(w)", "(x)", "(y)", "(z)"]), (0x2a0c, ["∫∫∫∫"]), (0x2a74, ["::=", "==", "==="]),
   (0x2adc, ["⫝\u0338"]), (0x309b, [" \u3099", " \u309a"]), (0x309f, ["より"]), (0x30ff, ["コト"]),
   (0x3200, ["(ᄀ)", "(ᄂ)", "(ᄃ)", "(ᄅ)", "(ᄆ)", "(ᄇ)", "(ᄉ)", "(ᄋ)", "(ᄌ)", "(ᄎ)", "(ᄏ)"]),
   (0x320b, ["(ᄐ)", "(ᄑ)", "(ᄒ)", "(가)", "(나)", "(다)", "(라)", "(마)", "(바)", "(사)", "(아)"]),
   (0x3216, ["(자)", "(차)", "(카)", "(타)", "(파)", "(하)", "(주)", "(오전)", "(오후)"]),
   (0x3220, ["(一)", "(二)", "(三)", "(四)", "(五)", "(六)", "(七)", "(八)", "(九)", "(十)", "(月)"]),
   (0x322b, ["(火)", "(水)", "(木)", "(金)", "(土)", "(日)", "(株)", "(有)", "(社)", "(名)", "(特)"]),
   (0x3236, ["(財)", "(祝)", "(労)", "(代)", "(呼)", "(学)", "(監)", "(企)", "(資)", "(協)", "(祭)"]),
   (0x3241, ["(休)", "(自)", "(至)"]),
   (0x3250, ["pte", "21", "22", "23", "24", "25", "26", "27", "28", "29", "30", "31", "32"]),
   (0x325d, ["33", "34", "35"]), (0x327c, ["참고", "주의"]),
   (0x32b1, ["36", "37", "38", "39", "40", "41", "42", "43", "44", "45", "46", "47", "48"]),
   (0x32be, ["49", "50", "1月", "2月", "3月", "4月", "5月", "6月", "7月", "8月", "9月", "10月", "11月"]),
   (0x32cb, ["12月", "hg", "erg", "ev", "ltd"]),
   (0x32ff, ["令和", "アパ\u30fcト", "アルファ", "アンペア", "ア\u30fcル", "イニング", "インチ", "ウォン"]),
   (0x3307, ["エスク\u30fcド", "エ\u30fcカ\u30fc", "オンス", "オ\u30fcム", "カイリ", "カラット", "カロリ\u30fc"]),
   (0x330e, ["ガロン", "ガンマ", "ギガ", "ギニ\u30fc", "キュリ\u30fc", "ギルダ\u30fc", "キロ", "キログラム"]),
   (0x3316, ["キロメ\u30fcトル", "キロワット", "グラム", "グラムトン", "クルゼイロ", "クロ\u30fcネ", "ケ\u30fcス", "コルナ"]),
   (0x331e, ["コ\u30fcポ", "サイクル", "サンチ\u30fcム", "シリング", "センチ", "セント", "ダ\u30fcス", "デシ", "ドル"]),
   (0x3327, ["トン", "ナノ", "ノット", "ハイツ", "パ\u30fcセント", "パ\u30fcツ", "バ\u30fcレル", "ピアストル", "ピクル"]),
   (0x3330, ["ピコ", "ビル", "ファラッド", "フィ\u30fcト", "ブッシェル", "フラン", "ヘクタ\u30fcル", "ペソ", "ペニヒ"]),
   (0x3339, ["ヘルツ", "ペンス", "ペ\u30fcジ", "ベ\u30fcタ", "ポイント", "ボルト", "ホン", "ポンド", "ホ\u30fcル"]),
   (0x3342, ["ホ\u30fcン", "マイクロ", "マイル", "マッハ", "マルク", "マンション", "ミクロン", "ミリ", "ミリバ\u30fcル"]),
   (0x334b, ["メガ", "メガトン", "メ\u30fcトル", "ヤ\u30fcド", "ヤ\u30fcル", "ユアン", "リットル", "リラ"]),
   (0x3353, ["ルピ\u30fc", "ル\u30fcブル", "レム", "レントゲン", "ワット", "0点", "1点", "2点", "3点", "4点"]),
   (0x335d, ["5点", "6点", "7点", "8点", "9点", "10点", "11点", "12点", "13点", "14点", "15点", "16点"]),
   (0x3369, ["17点", "18点", "19点", "20点", "21点", "22点", "23点", "24点", "hpa", "da", "au", "bar"]),
   (0x3375, ["ov", "pc", "dm", "dm2", "dm3", "iu", "平成", "昭和", "大正", "明治", "株式会社", "pa", "na"]),
   (0x3382, ["μa", "ma", "ka", "kb", "mb", "gb", "cal", "kcal", "pf", "nf", "μf", "μg", "mg"]),
   (0x338f, ["kg", "hz", "khz", "mhz", "ghz", "thz", "μl", "ml", "dl", "kl", "fm", "nm", "μm"]),
   (0x339c, ["mm", "cm", "km", "mm2", "cm2", "m2", "km2", "mm3", "cm3", "m3", "km3", "m∕s"]),
   (0x33a8, ["m∕s2", "pa", "kpa", "mpa", "gpa", "rad", "rad∕s", "rad∕s2", "ps", "ns", "μs"]),
   (0x33b3, ["ms", "pv", "nv", "μv", "mv", "kv", "mv", "pw", "nw", "μw", "mw", "kw", "mw"]),
   (0x33c0, ["kω", "mω"]), (0x33c3, ["bq", "cc", "cd", "c∕kg"]),
   (0x33c8, ["db", "gy", "ha", "hp", "in", "kk", "km", "kt", "lm", "ln", "log", "lx", "mb"]),
   (0x33d5, ["mil", "mol", "ph"]),
   (0x33d9, ["ppm", "pr", "sr", "sv", "wb", "v∕m", "a∕m", "1日", "2日", "3日", "4日", "5日", "6日"]),
   (0x33e6, ["7日", "8日", "9日", "10日", "11日", "12日", "13日", "14日", "15日", "16日", "17日", "18日"]),
   (0x33f2, ["19日", "20日", "21日", "22日", "23日", "24日", "25日", "26日", "27日", "28日", "29日"]),
   (0x33fd, ["30日", "31日", "gal"]), (0xfb00, ["ff", "fi", "fl", "ffi", "ffl", "st", "st"]),
   (0xfb13, ["մն", "մե", "մի", "վն", "մխ"]), (0xfb1d, ["\u05d9\u05b4"]),
   (0xfb1f, ["\u05f2\u05b7"]),
   (0xfb2a, ["\u05e9\u05c1", "\u05e9\u05c2", "\u05e9\u05bc\u05c1", "\u05e9\u05bc\u05c2"]),
   (0xfb2e, ["\u05d0\u05b7", "\u05d0\u05b8", "\u05d0\u05bc", "\u05d1\u05bc", "\u05d2\u05bc"]),
   (0xfb33, ["\u05d3\u05bc", "\u05d4\u05bc", "\u05d5\u05bc", "\u05d6\u05bc"]),
   (0xfb38, ["\u05d8\u05bc", "\u05d9\u05bc", "\u05da\u05bc", "\u05db\u05bc", "\u05dc\u05bc"]),
   (0xfb3e, ["\u05de\u05bc"]), (0xfb40, ["\u05e0\u05bc", "\u05e1\u05bc"]),
   (0xfb43, ["\u05e3\u05bc", "\u05e4\u05bc"]),
   (0xfb46, ["\u05e6\u05bc", "\u05e7\u05bc", "\u05e8\u05bc", "\u05e9\u05bc", "\u05ea\u05bc"]),
   (0xfb4b, ["\u05d5\u05b9", "\u05d1\u05bf", "\u05db\u05bf", "\u05e4\u05bf", "\u05d0\u05dc"]),
   (0xfbdd, ["\u06c7\u0674"]),
   (0xfbea, ["\u0626\u0627", "\u0626\u0627", "\u0626\u06d5", "\u0626\u06d5", "\u0626\u0648"]),
   (0xfbef, ["\u0626\u0648", "\u0626\u06c7", "\u0626\u06c7", "\u0626\u06c6", "\u0626\u06c6"]),
   (0xfbf4, ["\u0626\u06c8", "\u0626\u06c8", "\u0626\u06d0", "\u0626\u06d0", "\u0626\u06d0"]),
   (0xfbf9, ["\u0626\u0649", "\u0626\u0649", "\u0626\u0649"]),
   (0xfc00, ["\u0626\u062c", "\u0626\u062d", "\u0626\u0645", "\u0626\u0649", "\u0626\u064a"]),
   (0xfc05, ["\u0628\u062c", "\u0628\u062d", "\u0628\u062e", "\u0628\u0645", "\u0628\u0649"]),
   (0xfc0a, ["\u0628\u064a", "\u062a\u062c", "\u062a\u062d", "\u062a\u062e", "\u062a\u0645"]),
   (0xfc0f, ["\u062a\u0649", "\u062a\u064a", "\u062b\u062c", "\u062b\u0645", "\u062b\u0649"]),
   (0xfc14, ["\u062b\u064a", "\u062c\u062d", "\u062c\u0645", "\u062d\u062c", "\u062d\u0645"]),
   (0xfc19, ["\u062e\u062c", "\u062e\u062d", "\u062e\u0645", "\u0633\u062c", "\u0633\u062d"]),
   (0xfc1e, ["\u0633\u062e", "\u0633\u0645", "\u0635\u062d", "\u0635\u0645", "\u0636\u062c"]),
   (0xfc23, ["\u0636\u062d", "\u0636\u062e", "\u0636\u0645", "\u0637\u062d", "\u0637\u0645"]),
   (0xfc28, ["\u0638\u0645", "\u0639\u062c", "\u0639\u0645", "\u063a\u062c", "\u063a\u0645"]),
   (0xfc2d, ["\u0641\u062c", "\u0641\u062d", "\u0641\u062e", "\u0641\u0645", "\u0641\u0649"]),
   (0xfc32, ["\u0641\u064a", "\u0642\u062d", "\u0642\u0645", "\u0642\u0649", "\u0642\u064a"]),
   (0xfc37, ["\u0643\u0627", "\u0643\u062c", "\u0643\u062d", "\u0643\u062e", "\u0643\u0644"]),
   (0xfc3c, ["\u0643\u0645", "\u0643\u0649", "\u0643\u064a", "\u0644\u062c", "\u0644\u062d"]),
   (0xfc41, ["\u0644\u062e", "\u0644\u0645", "\u0644\u0649", "\u0644\u064a", "\u0645\u062c"]),
   (0xfc46, ["\u0645\u062d", "\u0645\u062e", "\u0645\u0645", "\u0645\u0649", "\u0645\u064a"]),
   (0xfc4b, ["\u0646\u062c", "\u0646\u062d", "\u0646\u062e", "\u0646\u0645", "\u0646\u0649"]),
   (0xfc50, ["\u0646\u064a", "\u0647\u062c", "\u0647\u0645", "\u0647\u0649", "\u0647\u064a"]),
   (0xfc55, ["\u064a\u062c", "\u064a\u062d", "\u064a\u062e", "\u064a\u0645", "\u064a\u0649"]),
   (0xfc5a, ["\u064a\u064a", "\u0630\u0670", "\u0631\u0670", "\u0649\u0670", " \u064c\u0651"]),
   (0xfc5f, [" \u064d\u0651", " \u064e\u0651", " \u064f\u0651", " \u0650\u0651"]),
   (0xfc63, [" \u0651\u0670", "\u0626\u0631", "\u0626\u0632", "\u0626\u0645", "\u0626\u0646"]),
   (0xfc68, ["\u0626\u0649", "\u0626\u064a", "\u0628\u0631", "\u0628\u0632", "\u0628\u0645"]),
   (0xfc6d, ["\u0628\u0646", "\u0628\u0649", "\u0628\u064a", "\u062a\u0631", "\u062a\u0632"]),
   (0xfc72, ["\u062a\u0645", "\u062a\u0646", "\u062a\u0649", "\u062a\u064a", "\u062b\u0631"]),
   (0xfc77, ["\u062b\u0632", "\u062b\u0645", "\u062b\u0646", "\u062b\u0649", "\u062b\u064a"]),
   (0xfc7c, ["\u0641\u0649", "\u0641\u064a", "\u0642\u0649", "\u0642\u064a", "\u0643\u0627"]),
   (0xfc81, ["\u0643\u0644", "\u0643\u0645", "\u0643\u0649", "\u0643\u064a", "\u0644\u0645"]),
   (0xfc86, ["\u0644\u0649", "\u0644\u064a", "\u0645\u0627", "\u0645\u0645", "\u0646\u0631"]),
   (0xfc8b, ["\u0646\u0632", "\u0646\u0645", "\u0646\u0646", "\u0646\u0649", "\u0646\u064a"]),
   (0xfc90, ["\u0649\u0670", "\u064a\u0631", "\u064a\u0632", "\u064a\u0645", "\u064a\u0646"]),
   (0xfc95, ["\u064a\u0649", "\u064a\u064a", "\u0626\u062c", "\u0626\u062d", "\u0626\u062e"]),
   (0xfc9a, ["\u0626\u0645", "\u0626\u0647", "\u0628\u062c", "\u0628\u062d", "\u0628\u062e"]),
   (0xfc9f, ["\u0628\u0645", "\u0628\u0647", "\u062a\u062c", "\u062a\u062d", "\u062a\u062e"]),
   (0xfca4, ["\u062a\u0645", "\u062a\u0647", "\u062b\u0645", "\u062c\u062d", "\u062c\u0645"]),
   (0xfca9, ["\u062d\u062c", "\u062d\u0645", "\u062e\u062c", "\u062e\u0645", "\u0633\u062c"]),
   (0xfcae, ["\u0633\u062d", "\u0633\u062e", "\u0633\u0645", "\u0635\u062d", "\u0635\u062e"]),
   (0xfcb3, ["\u0635\u0645", "\u0636\u062c", "\u0636\u062d", "\u0636\u062e", "\u0636\u0645"]),
   (0xfcb8, ["\u0637\u062d", "\u0638\u0645", "\u0639\u062c", "\u0639\u0645", "\u063a\u062c"]),
   (0xfcbd, ["\u063a\u0645", "\u0641\u062c", "\u0641\u062d", "\u0641\u062e", "\u0641\u0645"]),
   (0xfcc2, ["\u0642\u062d", "\u0642\u0645", "\u0643\u062c", "\u0643\u062d", "\u0643\u062e"]),
   (0xfcc7, ["\u0643\u0644", "\u0643\u0645", "\u0644\u062c", "\u0644\u062d", "\u0644\u062e"]),
   (0xfccc, ["\u0644\u0645", "\u0644\u0647", "\u0645\u062c", "\u0645\u062d", "\u0645\u062e"]),
   (0xfcd1, ["\u0645\u0645", "\u0646\u062c", "\u0646\u062d", "\u0646\u062e", "\u0646\u0645"]),
   (0xfcd6, ["\u0646\u0647", "\u0647\u062c", "\u0647\u0645", "\u0647\u0670", "\u064a\u062c"]),
   (0xfcdb, ["\u064a\u062d", "\u064a\u062e", "\u064a\u0645", "\u064a\u0647", "\u0626\u0645"]),
   (0xfce0, ["\u0626\u0647", "\u0628\u0645", "\u0628\u0647", "\u062a\u0645", "\u062a\u0647"]),
   (0xfce5, ["\u062b\u0645", "\u062b\u0647", "\u0633\u0645", "\u0633\u0647", "\u0634\u0645"]),
   (0xfcea, ["\u0634\u0647", "\u0643\u0644", "\u0643\u0645", "\u0644\u0645", "\u0646\u0645"]),
   (0xfcef, ["\u0646\u0647", "\u064a\u0645", "\u064a\u0647", "\u0640\u064e\u0651"]),
   (0xfcf3, ["\u0640\u064f\u0651", "\u0640\u0650\u0651", "\u0637\u0649", "\u0637\u064a"]),
   (0xfcf7, ["\u0639\u0649", "\u0639\u064a", "\u063a\u0649", "\u063a\u064a", "\u0633\u0649"]),
   (0xfcfc, ["\u0633\u064a", "\u0634\u0649", "\u0634\u064a", "\u062d\u0649", "\u062d\u064a"]),
   (0xfd01, ["\u062c\u0649", "\u062c\u064a", "\u062e\u0649", "\u062e\u064a", "\u0635\u0649"]),
   (0xfd06, ["\u0635\u064a", "\u0636\u0649", "\u0636\u064a", "\u0634\u062c", "\u0634\u062d"]),
   (0xfd0b, ["\u0634\u062e", "\u0634\u0645", "\u0634\u0631", "\u0633\u0631", "\u0635\u0631"]),
   (0xfd10, ["\u0636\u0631", "\u0637\u0649", "\u0637\u064a", "\u0639\u0649", "\u0639\u064a"]),
   (0xfd15, ["\u063a\u0649", "\u063a\u064a", "\u0633\u0649", "\u0633\u064a", "\u0634\u0649"]),
   (0xfd1a, ["\u0634\u064a", "\u062d\u0649", "\u062d\u064a", "\u062c\u0649", "\u062c\u064a"]),
   (0xfd1f, ["\u062e\u0649", "\u062e\u064a", "\u0635\u0649", "\u0635\u064a", "\u0636\u0649"]),
   (0xfd24, ["\u0636\u064a", "\u0634\u062c", "\u0634\u062d", "\u0634\u062e", "\u0634\u0645"]),
   (0xfd29, ["\u0634\u0631", "\u0633\u0631", "\u0635\u0631", "\u0636\u0631", "\u0634\u062c"]),
   (0xfd2e, ["\u0634\u062d", "\u0634\u062e", "\u0634\u0645", "\u0633\u0647", "\u0634\u0647"]),
   (0xfd33, ["\u0637\u0645", "\u0633\u062c", "\u0633\u062d", "\u0633\u062e", "\u0634\u062c"]),
   (0xfd38, ["\u0634\u062d", "\u0634\u062e", "\u0637\u0645", "\u0638\u0645", "\u0627\u064b"]),
   (0xfd3d, ["\u0627\u064b"]),
   (0xfd50, ["\u062a\u062c\u0645", "\u062a\u062d\u062c", "\u062a\u062d\u062c"]),
   (0xfd53, ["\u062a\u062d\u0645", "\u062a\u062e\u0645", "\u062a\u0645\u062c"]),
   (0xfd56, ["\u062a\u0645\u062d", "\u062a\u0645\u062e", "\u062c\u0645\u062d"]),
   (0xfd59, ["\u062c\u0645\u062d", "\u062d\u0645\u064a", "\u062d\u0645\u0649"]),
   (0xfd5c, ["\u0633\u062d\u062c", "\u0633\u062c\u062d", "\u0633\u062c\u0649"]),
   (0xfd5f, ["\u0633\u0645\u062d", "\u0633\u0645\u062d", "\u0633\u0645\u062c"]),
   (0xfd62, ["\u0633\u0645\u0645", "\u0633\u0645\u0645", "\u0635\u062d\u062d"]),
   (0xfd65, ["\u0635\u062d\u062d", "\u0635\u0645\u0645", "\u0634\u062d\u0645"]),
   (0xfd68, ["\u0634\u062d\u0645", "\u0634\u062c\u064a", "\u0634\u0645\u062e"]),
   (0xfd6b, ["\u0634\u0645\u062e", "\u0634\u0645\u0645", "\u0634\u0645\u0645"]),
   (0xfd6e, ["\u0636\u062d\u0649", "\u0636\u062e\u0645", "\u0636\u062e\u0645"]),
   (0xfd71, ["\u0637\u0645\u062d", "\u0637\u0645\u062d", "\u0637\u0645\u0645"]),
   (0xfd74, ["\u0637\u0645\u064a", "\u0639\u062c\u0645", "\u0639\u0645\u0645"]),
   (0xfd77, ["\u0639\u0645\u0645", "\u0639\u0645\u0649", "\u063a\u0645\u0645"]),
   (0xfd7a, ["\u063a\u0645\u064a", "\u063a\u0645\u0649", "\u0641\u062e\u0645"]),
   (0xfd7d, ["\u0641\u062e\u0645", "\u0642\u0645\u062d", "\u0642\u0645\u0645"]),
   (0xfd80, ["\u0644\u062d\u0645", "\u0644\u062d\u064a", "\u0644\u062d\u0649"]),
   (0xfd83, ["\u0644\u062c\u062c", "\u0644\u062c\u062c", "\u0644\u062e\u0645"]),
   (0xfd86, ["\u0644\u062e\u0645", "\u0644\u0645\u062d", "\u0644\u0645\u062d"]),
   (0xfd89, ["\u0645\u062d\u062c", "\u0645\u062d\u0645", "\u0645\u062d\u064a"]),
   (0xfd8c, ["\u0645\u062c\u062d", "\u0645\u062c\u0645", "\u0645\u062e\u062c"]),
   (0xfd8f, ["\u0645\u062e\u0645"]),
   (0xfd92, ["\u0645\u062c\u062e", "\u0647\u0645\u062c", "\u0647\u0645\u0645"]),
   (0xfd95, ["\u0646\u062d\u0645", "\u0646\u062d\u0649", "\u0646\u062c\u0645"]),
   (0xfd98, ["\u0646\u062c\u0645", "\u0646\u062c\u0649", "\u0646\u0645\u064a"]),
   (0xfd9b, ["\u0646\u0645\u0649", "\u064a\u0645\u0645", "\u064a\u0645\u0645"]),
   (0xfd9e, ["\u0628\u062e\u064a", "\u062a\u062c\u064a", "\u062a\u062c\u0649"]),
   (0xfda1, ["\u062a\u062e\u064a", "\u062a\u062e\u0649", "\u062a\u0645\u064a"]),
   (0xfda4, ["\u062a\u0645\u0649", "\u062c\u0645\u064a", "\u062c\u062d\u0649"]),
   (0xfda7, ["\u062c\u0645\u0649", "\u0633\u062e\u0649", "\u0635\u062d\u064a"]),
   (0xfdaa, ["\u0634\u062d\u064a", "\u0636\u062d\u064a", "\u0644\u062c\u064a"]),
   (0xfdad, ["\u0644\u0645\u064a", "\u064a\u062d\u064a", "\u064a\u062c\u064a"]),
   (0xfdb0, ["\u064a\u0645\u064a", "\u0645\u0645\u064a", "\u0642\u0645\u064a"]),
   (0xfdb3, ["\u0646\u062d\u064a", "\u0642\u0645\u062d", "\u0644\u062d\u0645"]),
   (0xfdb6, ["\u0639\u0645\u064a", "\u0643\u0645\u064a", "\u0646\u062c\u062d"]),
   (0xfdb9, ["\u0645\u062e\u064a", "\u0644\u062c\u0645", "\u0643\u0645\u0645"]),
   (0xfdbc, ["\u0644\u062c\u0645", "\u0646\u062c\u062d", "\u062c\u062d\u064a"]),
   (0xfdbf, ["\u062d\u062c\u064a", "\u0645\u062c\u064a", "\u0641\u0645\u064a"]),
   (0xfdc2, ["\u0628\u062d\u064a", "\u0643\u0645\u0645", "\u0639\u062c\u0645"]),
   (0xfdc5, ["\u0635\u0645\u0645", "\u0633\u062e\u064a", "\u0646\u062c\u064a"]),
   (0xfdf0, ["\u0635\u0644\u06d2", "\u0642\u0644\u06d2", "\u0627\u0644\u0644\u0647"]),
   (0xfdf3, ["\u0627\u0643\u0628\u0631", "\u0645\u062d\u0645\u062f"]),
   (0xfdf5, ["\u0635\u0644\u0639\u0645", "\u0631\u0633\u0648\u0644"]),
   (0xfdf7, ["\u0639\u0644\u064a\u0647", "\u0648\u0633\u0644\u0645", "\u0635\u0644\u0649"]),
   (0xfdfa, ["\u0635\u0644\u0649 \u0627\u0644\u0644\u0647 "
      ++ "\u0639\u0644\u064a\u0647 \u0648\u0633\u0644\u0645"]),
   (0xfdfb, ["\u062c\u0644 \u062c\u0644\u0627\u0644\u0647", "\u0631\u06cc\u0627\u0644"]),
   (0xfe49, [" \u0305", " \u0305", " \u0305", " \u0305"]),
   (0xfe70, [" \u064b", "\u0640\u064b", " \u064c"]), (0xfe74, [" \u064d"]),
   (0xfe76, [" \u064e", "\u0640\u064e", " \u064f", "\u0640\u064f", " \u0650", "\u0640\u0650"]),
   (0xfe7c, [" \u0651", "\u0640\u0651", " \u0652", "\u0640\u0652"]),
   (0xfef5, ["\u0644\u0622", "\u0644\u0622", "\u0644\u0623", "\u0644\u0623", "\u0644\u0625"]),
   (0xfefa, ["\u0644\u0625", "\u0644\u0627", "\u0644\u0627"]), (0xffe3, [" \u0304"]),
   (0x1d15e, ["𝅗𝅥", "𝅘𝅥", "𝅘𝅥𝅮", "𝅘𝅥𝅯", "𝅘𝅥𝅰", "𝅘𝅥𝅱", "𝅘𝅥𝅲"]),
   (0x1d1bb, ["𝆹𝅥", "𝆺𝅥", "𝆹𝅥𝅮", "𝆺𝅥𝅮", "𝆹𝅥𝅯", "𝆺𝅥𝅯"]),
   (0x1f101, ["0,", "1,", "2,", "3,", "4,", "5,", "6,", "7,", "8,", "9,"]),
   (0x1f110, ["(a)", "(b)", "(c)", "(d)", "(e)", "(f)", "(g)", "(h)", "(i)", "(j)", "(k)"]),
   (0x1f11b, ["(l)", "(m)", "(n)", "(o)", "(p)", "(q)", "(r)", "(s)", "(t)", "(u)", "(v)"]),
   (0x1f126, ["(w)", "(x)", "(y)", "(z)", "\u3014s\u3015"]), (0x1f12d, ["cd", "wz"]),
   (0x1f14a, ["hv", "mv", "sd", "ss", "ppv", "wc"]), (0x1f16a, ["mc", "md", "mr"]),
   (0x1f190, ["dj"]), (0x1f200, ["ほか", "ココ"]),
   (0x1f240, ["\u3014本\u3015", "\u3014三\u3015", "\u3014二\u3015", "\u3014安\u3015"]),
   (0x1f244, ["\u3014点\u3015", "\u3014打\u3015", "\u3014盗\u3015", "\u3014勝\u3015"]),
   (0x1f248, ["\u3014敗\u3015"])]

/-- Characters that stand for nothing. -/
def ignored : Unicode.Ranges :=
  [(0xad, 0xad), (0x34f, 0x34f), (0x115f, 0x1160), (0x17b4, 0x17b5), (0x180b, 0x180f),
   (0x200b, 0x200b), (0x2060, 0x2064), (0x206a, 0x206f), (0x3164, 0x3164), (0xfe00, 0xfe0f),
   (0xfeff, 0xfeff), (0xffa0, 0xffa0), (0x1bca0, 0x1bca3), (0x1d173, 0x1d17a), (0xe0100, 0xe01ef)]

/-! ### Look-up -/

/-- What the character stands for in `alternating`. -/
def successor? (c : Char) : Option Char :=
  match alternating.find? fun range => range.1 ≤ c.toNat && c.toNat ≤ range.2 with
  | some range => if (c.toNat - range.1) % 2 = 0 then some (Char.ofNat (c.toNat + 1)) else none
  | none => none

/-- What the character stands for in `images`. -/
def image? (c : Char) : Option Char :=
  images.findSome? fun (start, targets) =>
    if start ≤ c.toNat then targets.toList[c.toNat - start]? else none

/-- What the character stands for in `expansions`. -/
def expansion? (c : Char) : Option (List Char) :=
  expansions.findSome? fun (start, targets) =>
    if start ≤ c.toNat then targets[c.toNat - start]?.map String.toList else none

/-- What a character stands for in a domain name, if it may be there; most stand for themselves. -/
def map? (c : Char) : Option (List Char) :=
  if disallowed.covers c then none
  else if ignored.covers c then some []
  else match (successor? c).or (image? c) with
  | some d => some [d]
  | none => some ((expansion? c).getD [c])

end PosvGateway.Idna
