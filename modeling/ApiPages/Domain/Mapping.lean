/-
# What the characters of a domain stand for

Domains do not tell capitals from small letters, wide letters from narrow ones, or a ligature from
its letters.  So a character may stand for another one, for several, or for none at all, and only
what it stands for counts: `image?`.  The images are never mapped any further.

The tables hold the characters beyond ASCII.  Where neighbours have neighbouring images, the image
is found by a shift; the others are listed in order.
-/
import ApiPages.Domain.Allowed
import ApiPages.Text.Cut

namespace ApiPages.Domain

open Text

/-! ## 1. Tables -/

/-- The code points that stand for nothing. -/
def silentIntervals : List (Nat × Nat) :=
  [
    (0xAD, 0xAD), (0x34F, 0x34F), (0x115F, 0x1160), (0x17B4, 0x17B5), (0x180B, 0x180F),
    (0x200B, 0x200B), (0x2060, 0x2064), (0x206A, 0x206F), (0x3164, 0x3164), (0xFE00, 0xFE0F),
    (0xFEFF, 0xFEFF), (0xFFA0, 0xFFA0), (0x1BCA0, 0x1BCA3), (0x1D173, 0x1D17A), (0xE0100, 0xE01EF)]

/-- The code points that stand for a space, or for texts that have one.  Since no domain has a
space, what else is in these texts does not matter. -/
def spaceIntervals : List (Nat × Nat) :=
  [
    (0xA0, 0xA0), (0xA8, 0xA8), (0xAF, 0xAF), (0xB4, 0xB4), (0xB8, 0xB8), (0x2D8, 0x2DD),
    (0x37A, 0x37A), (0x384, 0x385), (0x1FBD, 0x1FBD), (0x1FBF, 0x1FC1), (0x1FCD, 0x1FCF),
    (0x1FDD, 0x1FDF), (0x1FED, 0x1FEE), (0x1FFD, 0x1FFE), (0x2000, 0x200A), (0x2017, 0x2017),
    (0x202F, 0x202F), (0x203E, 0x203E), (0x205F, 0x205F), (0x3000, 0x3000), (0x309B, 0x309C),
    (0xFC5E, 0xFC63), (0xFDFA, 0xFDFB), (0xFE49, 0xFE4C), (0xFE70, 0xFE70), (0xFE72, 0xFE72),
    (0xFE74, 0xFE74), (0xFE76, 0xFE76), (0xFE78, 0xFE78), (0xFE7A, 0xFE7A), (0xFE7C, 0xFE7C),
    (0xFE7E, 0xFE7E), (0xFFE3, 0xFFE3)]

/-- Progressions of code points with neighbouring images: the first one, the last one, the step,
and the image of the first one. -/
def shiftedProgressions : List (Nat × Nat × Nat × Nat) :=
  [
    (0xC0, 0xD6, 1, 0xE0), (0xD8, 0xDE, 1, 0xF8), (0x100, 0x12E, 2, 0x101),
    (0x141, 0x147, 2, 0x142), (0x14A, 0x176, 2, 0x14B), (0x1CD, 0x1DB, 2, 0x1CE),
    (0x1DE, 0x1EE, 2, 0x1DF), (0x1F8, 0x21E, 2, 0x1F9), (0x222, 0x232, 2, 0x223),
    (0x246, 0x24E, 2, 0x247), (0x391, 0x3A1, 1, 0x3B1), (0x3A3, 0x3AB, 1, 0x3C3),
    (0x3D8, 0x3EE, 2, 0x3D9), (0x400, 0x40F, 1, 0x450), (0x410, 0x42F, 1, 0x430),
    (0x460, 0x480, 2, 0x461), (0x48A, 0x4BE, 2, 0x48B), (0x4C1, 0x4CD, 2, 0x4C2),
    (0x4D0, 0x52E, 2, 0x4D1), (0x531, 0x556, 1, 0x561), (0x10A0, 0x10C5, 1, 0x2D00),
    (0x13F8, 0x13FD, 1, 0x13F0), (0x1C90, 0x1CBA, 1, 0x10D0), (0x1D31, 0x1D39, 2, 0x65),
    (0x1D34, 0x1D3A, 2, 0x68), (0x1DAE, 0x1DB1, 1, 0x272), (0x1E00, 0x1E94, 2, 0x1E01),
    (0x1EA0, 0x1EFE, 2, 0x1EA1), (0x1F08, 0x1F0F, 1, 0x1F00), (0x1F18, 0x1F1D, 1, 0x1F10),
    (0x1F28, 0x1F2F, 1, 0x1F20), (0x1F38, 0x1F3F, 1, 0x1F30), (0x1F48, 0x1F4D, 1, 0x1F40),
    (0x1F59, 0x1F5F, 2, 0x1F51), (0x1F68, 0x1F6F, 1, 0x1F60), (0x2074, 0x2079, 1, 0x34),
    (0x2080, 0x2089, 1, 0x30), (0x2096, 0x2099, 1, 0x6B), (0x2135, 0x2138, 1, 0x5D0),
    (0x2460, 0x2468, 1, 0x31), (0x24B6, 0x24CF, 1, 0x61), (0x24D0, 0x24E9, 1, 0x61),
    (0x2C00, 0x2C2F, 1, 0x2C30), (0x2C80, 0x2CE2, 2, 0x2C81), (0x313A, 0x313F, 1, 0x11B0),
    (0x3145, 0x314E, 1, 0x1109), (0x314F, 0x3163, 1, 0x1161), (0x3178, 0x317C, 1, 0x112B),
    (0x3269, 0x326D, 1, 0x110E), (0x32E4, 0x32E9, 1, 0x30CA), (0x32EE, 0x32F2, 1, 0x30DE),
    (0x32F5, 0x32FA, 1, 0x30E8), (0x32FB, 0x32FE, 1, 0x30EF), (0xA640, 0xA66C, 2, 0xA641),
    (0xA680, 0xA69A, 2, 0xA681), (0xA722, 0xA72E, 2, 0xA723), (0xA732, 0xA76E, 2, 0xA733),
    (0xA77E, 0xA786, 2, 0xA77F), (0xA796, 0xA7A8, 2, 0xA797), (0xA7B4, 0xA7C2, 2, 0xA7B5),
    (0xA7CC, 0xA7DA, 2, 0xA7CD), (0xAB70, 0xABBF, 1, 0x13A0), (0xFE41, 0xFE44, 1, 0x300C),
    (0xFF01, 0xFF20, 1, 0x21), (0xFF21, 0xFF3A, 1, 0x61), (0xFF3B, 0xFF5E, 1, 0x5B),
    (0xFF85, 0xFF8A, 1, 0x30CA), (0xFF8F, 0xFF93, 1, 0x30DE), (0xFF96, 0xFF9B, 1, 0x30E8),
    (0xFFAA, 0xFFAF, 1, 0x11B0), (0xFFB5, 0xFFBE, 1, 0x1109), (0xFFC2, 0xFFC7, 1, 0x1161),
    (0xFFCA, 0xFFCF, 1, 0x1167), (0xFFD2, 0xFFD7, 1, 0x116D), (0xFFE9, 0xFFEC, 1, 0x2190),
    (0x10400, 0x10427, 1, 0x10428), (0x104B0, 0x104D3, 1, 0x104D8), (0x10570, 0x10594, 2, 0x10597),
    (0x10571, 0x10579, 2, 0x10598), (0x1057D, 0x10589, 2, 0x105A4), (0x10C80, 0x10CB2, 1, 0x10CC0),
    (0x10D50, 0x10D65, 1, 0x10D70), (0x118A0, 0x118BF, 1, 0x118C0), (0x16E40, 0x16E5F, 1, 0x16E60),
    (0x16EA0, 0x16EB8, 1, 0x16EBB), (0x1CCD6, 0x1CCEF, 1, 0x61), (0x1CCF0, 0x1CCF9, 1, 0x30),
    (0x1D400, 0x1D419, 1, 0x61), (0x1D41A, 0x1D433, 1, 0x61), (0x1D434, 0x1D44D, 1, 0x61),
    (0x1D44E, 0x1D466, 2, 0x61), (0x1D457, 0x1D467, 2, 0x6A), (0x1D468, 0x1D481, 1, 0x61),
    (0x1D482, 0x1D49B, 1, 0x61), (0x1D4A9, 0x1D4AC, 1, 0x6E), (0x1D4AE, 0x1D4B5, 1, 0x73),
    (0x1D4B6, 0x1D4B9, 1, 0x61), (0x1D4BB, 0x1D4CF, 2, 0x66), (0x1D4C6, 0x1D4CE, 2, 0x71),
    (0x1D4D0, 0x1D4E9, 1, 0x61), (0x1D4EA, 0x1D503, 1, 0x61), (0x1D507, 0x1D50A, 1, 0x64),
    (0x1D50D, 0x1D514, 1, 0x6A), (0x1D516, 0x1D51C, 1, 0x73), (0x1D51E, 0x1D537, 1, 0x61),
    (0x1D53B, 0x1D53E, 1, 0x64), (0x1D540, 0x1D544, 1, 0x69), (0x1D54A, 0x1D550, 1, 0x73),
    (0x1D552, 0x1D56B, 1, 0x61), (0x1D56C, 0x1D585, 1, 0x61), (0x1D586, 0x1D59F, 1, 0x61),
    (0x1D5A0, 0x1D5B9, 1, 0x61), (0x1D5BA, 0x1D5D3, 1, 0x61), (0x1D5D4, 0x1D5ED, 1, 0x61),
    (0x1D5EE, 0x1D607, 1, 0x61), (0x1D608, 0x1D621, 1, 0x61), (0x1D622, 0x1D63B, 1, 0x61),
    (0x1D63C, 0x1D655, 1, 0x61), (0x1D656, 0x1D66F, 1, 0x61), (0x1D670, 0x1D689, 1, 0x61),
    (0x1D68A, 0x1D6A3, 1, 0x61), (0x1D6A8, 0x1D6B8, 1, 0x3B1), (0x1D6BA, 0x1D6C0, 1, 0x3C3),
    (0x1D6C2, 0x1D6D2, 1, 0x3B1), (0x1D6D4, 0x1D6DA, 1, 0x3C3), (0x1D6E2, 0x1D6F2, 1, 0x3B1),
    (0x1D6F4, 0x1D6FA, 1, 0x3C3), (0x1D6FC, 0x1D70C, 1, 0x3B1), (0x1D70E, 0x1D714, 1, 0x3C3),
    (0x1D71C, 0x1D72C, 1, 0x3B1), (0x1D72E, 0x1D734, 1, 0x3C3), (0x1D736, 0x1D746, 1, 0x3B1),
    (0x1D748, 0x1D74E, 1, 0x3C3), (0x1D756, 0x1D766, 1, 0x3B1), (0x1D768, 0x1D76E, 1, 0x3C3),
    (0x1D770, 0x1D780, 1, 0x3B1), (0x1D782, 0x1D788, 1, 0x3C3), (0x1D790, 0x1D7A0, 1, 0x3B1),
    (0x1D7A2, 0x1D7A8, 1, 0x3C3), (0x1D7AA, 0x1D7BA, 1, 0x3B1), (0x1D7BC, 0x1D7C2, 1, 0x3C3),
    (0x1D7CE, 0x1D7D7, 1, 0x30), (0x1D7D8, 0x1D7E1, 1, 0x30), (0x1D7E2, 0x1D7EB, 1, 0x30),
    (0x1D7EC, 0x1D7F5, 1, 0x30), (0x1D7F6, 0x1D7FF, 1, 0x30), (0x1E030, 0x1E038, 1, 0x430),
    (0x1E03C, 0x1E046, 1, 0x43E), (0x1E051, 0x1E059, 1, 0x430), (0x1E05F, 0x1E064, 1, 0x443),
    (0x1E900, 0x1E921, 1, 0x1E922), (0x1EE0A, 0x1EE0D, 1, 0x643), (0x1EE2A, 0x1EE2D, 1, 0x643),
    (0x1F130, 0x1F149, 1, 0x61), (0x1FBF0, 0x1FBF9, 1, 0x30)]

/-- Runs of code points that stand for one character each: the first one, and all images in order.
-/
def letterRuns : List (Nat × String) :=
  [
    (0xAA, "a"),
    (0xB2, "23"),
    (0xB5, "μ"),
    (0x178, "ÿźźżżžžsƀɓƃƃƅƅɔƈƈɖɗƌƌƍǝəɛƒƒɠɣƕɩɨƙ"),
    (0x19C, "ɯɲƞɵơơƣƣƥƥʀƨƨʃƪƫƭƭʈưưʊʋƴƴƶƶʒƹ"),
    (0x1BC, "ƽ"),
    (0x220, "ƞ"),
    (0x23A, "ⱥȼȼƚⱦȿɀɂɂƀʉʌ"),
    (0x2B0, "hɦjrɹɻʁwy"),
    (0x2E0, "ɣlsxʕ"),
    (0x370, "ͱͱͳͳʹ͵ͷ"),
    (0x37E, ";ϳ"),
    (0x386, "ά·έήί"),
    (0x38C, "ό"),
    (0x38E, "ύώ"),
    (0x3CF, "ϗβθυύϋφπ"),
    (0x3F0, "κρσϳθε϶ϸϸσϻϻϼͻͼͽ"),
    (0x4C0, "ӏ"),
    (0xF0C, "་"),
    (0x10C7, "ⴧ"),
    (0x10CD, "ⴭ"),
    (0x10FC, "ნ"),
    (0x1C80, "вдосттъѣꙋ\u1c8a"),
    (0x1CBD, "ჽჾჿ"),
    (0x1D2C, "aæbᴯd"),
    (0x1D32, "ǝ"),
    (0x1D3C, "oȣprtuwaɐɑᴂbdeəɛɜgᵎkmŋoɔᴖᴗptuᴝɯvᴥβγδφχiruvβγρφχ"),
    (0x1D78, "н"),
    (0x1D9B, "ɒcɕðɜfɟɡɥɨɩɪᵻʝɭᶅʟɱɰ"),
    (0x1DB2, "ɸʂʃƫʉʊᴜʋʌzʐʑʒθ"),
    (0x1F71, "άὲέὴήὶίὸόὺύὼώ"),
    (0x1FBE, "ι"),
    (0x1FD3, "ΐ"),
    (0x1FD8, "ῐῑὶί"),
    (0x1FE3, "ΰ"),
    (0x1FE8, "ῠῡὺύῥ"),
    (0x1FEF, "`"),
    (0x2011, "‐"),
    (0x2070, "0i"),
    (0x207A, "+−=()n"),
    (0x208A, "+−=()"),
    (0x2090, "aeoxəh"),
    (0x209A, "pst"),
    (0x210A, "ghhhhħiill℔n"),
    (0x2123, "℣z℥ω℧z℩kåbc℮eefⅎmo"),
    (0x2145, "ddeij"),
    (0x2183, "ↄ"),
    (0x2329, "〈〉"),
    (0x24EA, "0"),
    (0x2C60, "ⱡⱡɫᵽɽⱥⱦⱨⱨⱪⱪⱬⱬɑɱɐɒⱱⱳⱳⱴⱶ"),
    (0x2C7C, "jvȿɀ"),
    (0x2CEB, "ⳬⳬⳮ"),
    (0x2CF2, "ⳳ"),
    (0x2D6F, "ⵡ"),
    (0x2E9F, "母"),
    (0x2EF3, "龟"),
    (0x2F00, "一丨丶丿乙亅二亠人儿入八冂冖冫几凵刀力勹匕匚匸十卜卩厂厶又口囗土士夂夊夕"),
    (0x2F24, "大女子宀寸小尢尸屮山巛工己巾干幺广廴廾弋弓彐彡彳心戈戶手支攴文斗斤方无日"),
    (0x2F48, "曰月木欠止歹殳毋比毛氏气水火爪父爻爿片牙牛犬玄玉瓜瓦甘生用田疋疒癶白皮皿"),
    (0x2F6C, "目矛矢石示禸禾穴立竹米糸缶网羊羽老而耒耳聿肉臣自至臼舌舛舟艮色艸虍虫血行"),
    (0x2F90, "衣襾見角言谷豆豕豸貝赤走足身車辛辰辵邑酉釆里金長門阜隶隹雨靑非面革韋韭音"),
    (0x2FB4, "頁風飛食首香馬骨高髟鬥鬯鬲鬼魚鳥鹵鹿麥麻黃黍黑黹黽鼎鼓鼠鼻齊齒龍龜龠"),
    (0x3002, "."),
    (0x3036, "〒〷十卄卅"),
    (0x3131, "ᄀᄁᆪᄂᆬᆭᄃᄄᄅ"),
    (0x3140, "ᄚᄆᄇᄈᄡ"),
    (0x3165, "ᄔᄕᇇᇈᇌᇎᇓᇗᇙᄜᇝᇟᄝᄞᄠᄢᄣᄧᄩ"),
    (0x317D, "ᄲᄶᅀᅇᅌᇱᇲᅗᅘᅙᆄᆅᆈᆑᆒᆔᆞᆡ"),
    (0x3192, "一二三四上中下甲乙丙丁天地人"),
    (0x326E, "가나다라마바사아자차카타파하"),
    (0x327E, "우㉿一二三四五六七八九十月火水木金土日株有社名特財祝労秘男女適優印注項休"),
    (0x32A2, "写正上中下左右医宗学監企資協夜"),
    (0x32D0, "アイウエオカキクケコサシスセソタチツテト"),
    (0x32EA, "ヒフヘホ"),
    (0x32F3, "ヤユ"),
    (0xA69C, "ъь"),
    (0xA770, "ꝯ"),
    (0xA779, "ꝺꝺꝼꝼᵹ"),
    (0xA78B, "ꞌꞌɥꞎꞏꞑꞑꞓ"),
    (0xA7AA, "ɦɜɡɬɪꞯʞʇʝꭓ"),
    (0xA7C4, "ꞔʂᶎꟈꟈꟊꟊɤ"),
    (0xA7DC, "ƛ"),
    (0xA7F1, "scfqꟶꟶꟷħœ"),
    (0xAB5C, "ꜧꬷɫꭒ"),
    (0xAB69, "ʍ"),
    (0xF900, "豈更車賈滑串句龜龜契金喇奈懶癩羅蘿螺裸邏樂洛烙珞落酪駱亂卵欄爛蘭鸞嵐濫藍"),
    (0xF924, "襤拉臘蠟廊朗浪狼郎來冷勞擄櫓爐盧老蘆虜路露魯鷺碌祿綠菉錄鹿論壟弄籠聾牢磊"),
    (0xF948, "賂雷壘屢樓淚漏累縷陋勒肋凜凌稜綾菱陵讀拏樂諾丹寧怒率異北磻便復不泌數索參"),
    (0xF96C, "塞省葉說殺辰沈拾若掠略亮兩凉梁糧良諒量勵呂女廬旅濾礪閭驪麗黎力曆歷轢年憐"),
    (0xF990, "戀撚漣煉璉秊練聯輦蓮連鍊列劣咽烈裂說廉念捻殮簾獵令囹寧嶺怜玲瑩羚聆鈴零靈"),
    (0xF9B4, "領例禮醴隸惡了僚寮尿料樂燎療蓼遼龍暈阮劉杻柳流溜琉留硫紐類六戮陸倫崙淪輪"),
    (0xF9D8, "律慄栗率隆利吏履易李梨泥理痢罹裏裡里離匿溺吝燐璘藺隣鱗麟林淋臨立笠粒狀炙"),
    (0xF9FC, "識什茶刺切度拓糖宅洞暴輻行降見廓兀嗀﨎﨏塚﨑晴﨓﨔凞猪益礼神祥福靖精羽﨟"),
    (0xFA20, "蘒﨡諸﨣﨤逸都"),
    (0xFA2A, "飯飼館鶴郞隷侮僧免勉勤卑喝嘆器塀墨層屮悔慨憎懲敏既暑梅海渚漢煮爫琢碑社祉"),
    (0xFA4E, "祈祐祖祝禍禎穀突節練縉繁署者臭艹艹著褐視謁謹賓贈辶逸難響頻恵𤋮舘"),
    (0xFA70, "並况全侀充冀勇勺喝啕喙嗢塚墳奄奔婢嬨廒廙彩徭惘慎愈憎慠懲戴揄搜摒敖晴朗望"),
    (0xFA94, "杖歹殺流滛滋漢瀞煮瞧爵犯猪瑱甆画瘝瘟益盛直睊着磌窱節类絛練缾者荒華蝹襁覆"),
    (0xFAB8, "視調諸請謁諾諭謹變贈輸遲醙鉶陼難靖韛響頋頻鬒龜𢡊𢡄𣏕㮝䀘䀹𥉉𥳐𧻓齃龎"),
    (0xFB50, "\u0671\u0671\u067b\u067b\u067b\u067b\u067e\u067e\u067e\u067e\u0680\u0680"),
    (0xFB5C, "\u0680\u0680\u067a\u067a\u067a\u067a\u067f\u067f\u067f\u067f\u0679\u0679"),
    (0xFB68, "\u0679\u0679\u06a4\u06a4\u06a4\u06a4\u06a6\u06a6\u06a6\u06a6\u0684\u0684"),
    (0xFB74, "\u0684\u0684\u0683\u0683\u0683\u0683\u0686\u0686\u0686\u0686\u0687\u0687"),
    (0xFB80, "\u0687\u0687\u068d\u068d\u068c\u068c\u068e\u068e\u0688\u0688\u0698\u0698"),
    (0xFB8C, "\u0691\u0691\u06a9\u06a9\u06a9\u06a9\u06af\u06af\u06af\u06af\u06b3\u06b3"),
    (0xFB98, "\u06b3\u06b3\u06b1\u06b1\u06b1\u06b1\u06ba\u06ba\u06bb\u06bb\u06bb\u06bb"),
    (0xFBA4, "\u06c0\u06c0\u06c1\u06c1\u06c1\u06c1\u06be\u06be\u06be\u06be\u06d2\u06d2"),
    (0xFBB0, "\u06d3\u06d3"),
    (0xFBDE, "\u06cb\u06cb\u06c5\u06c5\u06c9\u06c9\u06d0\u06d0\u06d0\u06d0\u0649\u0649"),
    (0xFE10, ",、"),
    (0xFE13, ":;!?〖〗"),
    (0xFE31, "—–__()\x7b\x7d〔〕【】《》〈〉"),
    (0xFE47, "[]"),
    (0xFE4D, "___,、"),
    (0xFE54, ";:?!—()\x7b\x7d〔〕#&*+-<>="),
    (0xFE68, "\\$%@"),
    (0xFE80, "\u0621\u0622\u0622\u0623\u0623\u0624\u0624\u0625\u0625\u0626\u0626\u0626"),
    (0xFE8C, "\u0626\u0627\u0627\u0628\u0628\u0628\u0628\u0629\u0629\u062a\u062a\u062a"),
    (0xFE98, "\u062a\u062b\u062b\u062b\u062b\u062c\u062c\u062c\u062c\u062d\u062d\u062d"),
    (0xFEA4, "\u062d\u062e\u062e\u062e\u062e\u062f\u062f\u0630\u0630\u0631\u0631\u0632"),
    (0xFEB0, "\u0632\u0633\u0633\u0633\u0633\u0634\u0634\u0634\u0634\u0635\u0635\u0635"),
    (0xFEBC, "\u0635\u0636\u0636\u0636\u0636\u0637\u0637\u0637\u0637\u0638\u0638\u0638"),
    (0xFEC8, "\u0638\u0639\u0639\u0639\u0639\u063a\u063a\u063a\u063a\u0641\u0641\u0641"),
    (0xFED4, "\u0641\u0642\u0642\u0642\u0642\u0643\u0643\u0643\u0643\u0644\u0644\u0644"),
    (0xFEE0, "\u0644\u0645\u0645\u0645\u0645\u0646\u0646\u0646\u0646\u0647\u0647\u0647"),
    (0xFEEC, "\u0647\u0648\u0648\u0649\u0649\u064a\u064a\u064a\u064a"),
    (0xFF5F, "⦅⦆.「」、・ヲァィゥェォャュョッーアイウエオカキクケコサシスセソタチツテ"),
    (0xFF84, "ト"),
    (0xFF8B, "ヒフヘホ"),
    (0xFF94, "ヤユ"),
    (0xFF9C, "ワン\u3099\u309a"),
    (0xFFA1, "ᄀᄁᆪᄂᆬᆭᄃᄄᄅ"),
    (0xFFB0, "ᄚᄆᄇᄈᄡ"),
    (0xFFDA, "ᅳᅴᅵ"),
    (0xFFE0, "¢£¬"),
    (0xFFE4, "¦¥₩"),
    (0xFFE8, "│"),
    (0xFFED, "■○"),
    (0x1058D, "𐖴"),
    (0x1058F, "𐖶"),
    (0x10591, "𐖸"),
    (0x10595, "𐖼"),
    (0x10781, "ːˑæʙɓ"),
    (0x10787, "ʣꭦʥʤɖɗᶑɘɞʩɤɢɠʛħʜɧʄʪʫɬ𝼄ꞎɮ𝼅ʎ𝼆øɶɷqɺ𝼈ɽɾʀʨʦꭧʧʈⱱ"),
    (0x107B2, "ʏʡʢʘǀǁǂ𝼊𝼞"),
    (0x1D44F, "b"),
    (0x1D451, "d"),
    (0x1D453, "f"),
    (0x1D49C, "a"),
    (0x1D49E, "cd"),
    (0x1D4A2, "g"),
    (0x1D4A5, "jk"),
    (0x1D4BE, "i"),
    (0x1D4C0, "k"),
    (0x1D4C2, "m"),
    (0x1D504, "ab"),
    (0x1D538, "ab"),
    (0x1D546, "o"),
    (0x1D6A4, "ıȷ"),
    (0x1D6B9, "θ"),
    (0x1D6C1, "∇"),
    (0x1D6D3, "σ"),
    (0x1D6DB, "∂εθκφρπ"),
    (0x1D6F3, "θ"),
    (0x1D6FB, "∇"),
    (0x1D70D, "σ"),
    (0x1D715, "∂εθκφρπ"),
    (0x1D72D, "θ"),
    (0x1D735, "∇"),
    (0x1D747, "σ"),
    (0x1D74F, "∂εθκφρπ"),
    (0x1D767, "θ"),
    (0x1D76F, "∇"),
    (0x1D781, "σ"),
    (0x1D789, "∂εθκφρπ"),
    (0x1D7A1, "θ"),
    (0x1D7A9, "∇"),
    (0x1D7BB, "σ"),
    (0x1D7C3, "∂εθκφρπϝϝ"),
    (0x1E039, "клм"),
    (0x1E047, "ыэюꚉәіјөүӏ"),
    (0x1E05A, "клопс"),
    (0x1E065, "ъыґіѕџҫꙑұ"),
    (0x1EE00, "\u0627\u0628\u062c\u062f"),
    (0x1EE05, "\u0648\u0632\u062d\u0637\u064a"),
    (0x1EE0E, "\u0633\u0639\u0641\u0635\u0642\u0631\u0634\u062a\u062b\u062e\u0630\u0636"),
    (0x1EE1A, "\u0638\u063a\u066e\u06ba\u06a1\u066f"),
    (0x1EE21, "\u0628\u062c"),
    (0x1EE24, "\u0647"),
    (0x1EE27, "\u062d"),
    (0x1EE29, "\u064a"),
    (0x1EE2E, "\u0633\u0639\u0641\u0635\u0642"),
    (0x1EE34, "\u0634\u062a\u062b\u062e"),
    (0x1EE39, "\u0636"),
    (0x1EE3B, "\u063a"),
    (0x1EE42, "\u062c"),
    (0x1EE47, "\u062d"),
    (0x1EE49, "\u064a"),
    (0x1EE4B, "\u0644"),
    (0x1EE4D, "\u0646\u0633\u0639"),
    (0x1EE51, "\u0635\u0642"),
    (0x1EE54, "\u0634"),
    (0x1EE57, "\u062e"),
    (0x1EE59, "\u0636"),
    (0x1EE5B, "\u063a"),
    (0x1EE5D, "\u06ba"),
    (0x1EE5F, "\u066f"),
    (0x1EE61, "\u0628\u062c"),
    (0x1EE64, "\u0647"),
    (0x1EE67, "\u062d\u0637\u064a\u0643"),
    (0x1EE6C, "\u0645\u0646\u0633\u0639\u0641\u0635\u0642"),
    (0x1EE74, "\u0634\u062a\u062b\u062e"),
    (0x1EE79, "\u0636\u0638\u063a\u066e"),
    (0x1EE7E, "\u06a1"),
    (0x1EE80, "\u0627\u0628\u062c\u062f\u0647\u0648\u0632\u062d\u0637\u064a"),
    (0x1EE8B, "\u0644\u0645\u0646\u0633\u0639\u0641\u0635\u0642\u0631\u0634\u062a\u062b"),
    (0x1EE97, "\u062e\u0630\u0636\u0638\u063a"),
    (0x1EEA1, "\u0628\u062c\u062f"),
    (0x1EEA5, "\u0648\u0632\u062d\u0637\u064a"),
    (0x1EEAB, "\u0644\u0645\u0646\u0633\u0639\u0641\u0635\u0642\u0631\u0634\u062a\u062b"),
    (0x1EEB7, "\u062e\u0630\u0636\u0638\u063a"),
    (0x1F210, "手字双デ二多解天交映無料前後再新初終生販声吹演投捕一三遊左中右指走打禁空"),
    (0x1F234, "合満有月申割営配"),
    (0x1F250, "得可"),
    (0x2F800, "丽丸乁𠄢你侮侻倂偺備僧像㒞𠘺免兔兤具𠔜㒹內再𠕋冗冤仌冬况𩇟凵刃㓟刻剆割剷"),
    (0x2F824, "㔕勇勉勤勺包匆北卉卑博即卽卿卿卿𠨬灰及叟𠭣叫叱吆咞吸呈周咢哶唐啓啣善善喙"),
    (0x2F848, "喫喳嗂圖嘆圗噑噴切壮城埴堍型堲報墬𡓤売壷夆多夢奢𡚨𡛪姬娛娧姘婦㛮㛼嬈嬾嬾"),
    (0x2F86C, "𡧈寃寘寧寳𡬘寿将当尢㞁屠屮峀岍𡷤嵃𡷦嵮嵫嵼巡巢㠯巽帨帽幩㡢𢆃㡼庰庳庶廊𪎒"),
    (0x2F890, "廾𢌱𢌱舁弢弢㣇𣊸𦇚形彫㣣徚忍志忹悁㤺㤜悔𢛔惇慈慌慎慌慺憎憲憤憯懞懲懶成戛"),
    (0x2F8B4, "扝抱拔捐𢬌挽拼捨掃揤𢯱搢揅掩㨮摩摾撝摷㩬敏敬𣀊旣書晉㬙暑㬈㫤冒冕最暜肭䏙"),
    (0x2F8D8, "朗望朡杞杓𣏃㭉柺枅桒梅𣑭梎栟椔㮝楂榣槪檨𣚣櫛㰘次𣢧歔㱎歲殟殺殻𣪍𡴋𣫺汎𣲼"),
    (0x2F8FC, "沿泍汧洖派海流浩浸涅𣴞洴港湮㴳滋滇𣻑淹潮𣽞𣾎濆瀹瀞瀛㶖灊災灷炭𠔥煅𤉣熜𤎫"),
    (0x2F920, "爨爵牐𤘈犀犕𤜵𤠔獺王㺬玥㺸㺸瑇瑜瑱璅瓊㼛甤𤰶甾𤲒異𢆟瘐𤾡𤾸𥁄㿼䀈直𥃳𥃲𥄙"),
    (0x2F944, "𥄳眞真真睊䀹瞋䁆䂖𥐝硎碌磌䃣𥘦祖𥚚𥛅福秫䄯穀穊穏𥥼𥪧𥪧竮䈂𥮫篆築䈧𥲀糒䊠"),
    (0x2F968, "糨糣紀𥾆絣䌁緇縂繅䌴𦈨𦉇䍙𦋙罺𦌾羕翺者𦓚𦔣聠𦖨聰𣍟䏕育脃䐋脾媵𦞧𦞵𣎓𣎜舁"),
    (0x2F98C, "舄辞䑫芑芋芝劳花芳芽苦𦬼若茝荣莭茣莽菧著荓菊菌菜𦰶𦵫𦳕䔫蓱蓳蔖𧏊蕤𦼬䕝䕡"),
    (0x2F9B0, "𦾱𧃒䕫虐虜虧虩蚩蚈蜎蛢蝹蜨蝫螆䗗蟡蠁䗹衠衣𧙧裗裞䘵裺㒻𧢮𧥦䚾䛇誠諭變豕𧲨"),
    (0x2F9D4, "貫賁贛起𧼯𠠄跋趼跰𠣞軔輸𨗒𨗭邔郱鄑𨜮鄛鈸鋗鋘鉼鏹鐕𨯺開䦕閷𨵷䧦雃嶲霣𩅅𩈚"),
    (0x2F9F8, "䩮䩶韠𩐊䪲𩒖頋頋頩𩖶飢䬳餩馧駂駾䯎𩬰鬒鱀鳽䳎䳭鵧𪃎䳸𪄅𪈎𪊑麻䵖黹黾鼅鼏鼖"),
    (0x2FA1C, "鼻𪘀")]

/-- Runs of code points that stand for a text each: the first one, and all images in order, with
spaces between them. -/
def textRuns : List (Nat × String) :=
  [
    (0xB9, "1 o » 1⁄4 1⁄2 3⁄4"),
    (0x130, "i\u0307 ı ij ij ĵ ĵ ķ ķ ĸ ĺ ĺ ļ ļ ľ ľ l· l·"),
    (0x149, "ʼn"),
    (0x1C4, "dž dž dž lj lj lj nj nj nj"),
    (0x1F1, "dz dz dz ǵ ǵ ƕ ƿ"),
    (0x340, "\u0300 \u0301 \u0342 \u0313 \u0308\u0301 ι"),
    (0x587, "եւ"),
    (0x675, "\u0627\u0674 \u0648\u0674 \u06c7\u0674 \u064a\u0674"),
    (0x958, "क\u093c ख\u093c ग\u093c ज\u093c ड\u093c ढ\u093c फ\u093c य\u093c"),
    (0x9DC, "ড\u09bc ঢ\u09bc"),
    (0x9DF, "য\u09bc"),
    (0xA33, "ਲ\u0a3c"),
    (0xA36, "ਸ\u0a3c"),
    (0xA59, "ਖ\u0a3c ਗ\u0a3c ਜ\u0a3c"),
    (0xA5E, "ਫ\u0a3c"),
    (0xB5C, "ଡ\u0b3c ଢ\u0b3c"),
    (0xE33, "\u0e4dา"),
    (0xEB3, "\u0ecdາ"),
    (0xEDC, "ຫນ ຫມ"),
    (0xF43, "ག\u0fb7"),
    (0xF4D, "ཌ\u0fb7"),
    (0xF52, "ད\u0fb7"),
    (0xF57, "བ\u0fb7"),
    (0xF5C, "ཛ\u0fb7"),
    (0xF69, "ཀ\u0fb5"),
    (0xF73, "\u0f71\u0f72 \u0f74 \u0f71\u0f74 \u0fb2\u0f80 \u0fb2\u0f71\u0f80 \u0fb3\u0f80"),
    (0xF79, "\u0fb3\u0f71\u0f80"),
    (0xF81, "\u0f71\u0f80"),
    (0xF93, "\u0f92\u0fb7"),
    (0xF9D, "\u0f9c\u0fb7"),
    (0xFA2, "\u0fa1\u0fb7"),
    (0xFA7, "\u0fa6\u0fb7"),
    (0xFAC, "\u0fab\u0fb7"),
    (0xFB9, "\u0f90\u0fb5"),
    (0x1E9A, "aʾ ṡ ẜ ẝ ß"),
    (0x1F80, "ἀι ἁι ἂι ἃι ἄι ἅι ἆι ἇι ἀι ἁι ἂι ἃι ἄι ἅι ἆι ἇι ἠι ἡι ἢι ἣι ἤι ἥι ἦι ἧι ἠι ἡι"),
    (0x1F9A, "ἢι ἣι ἤι ἥι ἦι ἧι ὠι ὡι ὢι ὣι ὤι ὥι ὦι ὧι ὠι ὡι ὢι ὣι ὤι ὥι ὦι ὧι ᾰ ᾱ ὰι αι"),
    (0x1FB4, "άι"),
    (0x1FB7, "ᾶι ᾰ ᾱ ὰ ά αι"),
    (0x1FC2, "ὴι ηι ήι"),
    (0x1FC7, "ῆι ὲ έ ὴ ή ηι"),
    (0x1FF2, "ὼι ωι ώι"),
    (0x1FF7, "ῶι ὸ ό ὼ ώ ωι"),
    (0x2033, "′′ ′′′ ‵ ‵‵ ‵‵‵"),
    (0x203C, "!!"),
    (0x2047, "?? ?! !?"),
    (0x2057, "′′′′"),
    (0x20A8, "rs"),
    (0x2100, "a/c a/s c °c ℄ c/o c/u ɛ ℈ °f"),
    (0x2116, "no ℗ ℘ p q r r r ℞ ℟ sm tel tm"),
    (0x2139, "i ℺ fax π γ γ π ∑"),
    (0x2150, "1⁄7 1⁄9 1⁄10 1⁄3 2⁄3 1⁄5 2⁄5 3⁄5 4⁄5 1⁄6 5⁄6 1⁄8 3⁄8 5⁄8 7⁄8 1⁄ i ii iii iv v"),
    (0x2165, "vi vii viii ix x xi xii l c d m i ii iii iv v vi vii viii ix x xi xii l c d m"),
    (0x2189, "0⁄3"),
    (0x222C, "∫∫ ∫∫∫ ∮ ∮∮ ∮∮∮"),
    (0x2469, "10 11 12 13 14 15 16 17 18 19 20 (1) (2) (3) (4) (5) (6) (7) (8) (9) (10)"),
    (0x247E, "(11) (12) (13) (14) (15) (16) (17) (18) (19) (20)"),
    (0x249C, "(a) (b) (c) (d) (e) (f) (g) (h) (i) (j) (k) (l) (m) (n) (o) (p) (q) (r) (s)"),
    (0x24AF, "(t) (u) (v) (w) (x) (y) (z)"),
    (0x2A0C, "∫∫∫∫"),
    (0x2A74, "::= == ==="),
    (0x2ADC, "⫝\u0338"),
    (0x309F, "より"),
    (0x30FF, "コト"),
    (0x3200, "(ᄀ) (ᄂ) (ᄃ) (ᄅ) (ᄆ) (ᄇ) (ᄉ) (ᄋ) (ᄌ) (ᄎ) (ᄏ) (ᄐ) (ᄑ) (ᄒ) (가)"),
    (0x320F, "(나) (다) (라) (마) (바) (사) (아) (자) (차) (카) (타) (파) (하) (주) (오전)"),
    (0x321E, "(오후)"),
    (0x3220, "(一) (二) (三) (四) (五) (六) (七) (八) (九) (十) (月) (火) (水) (木) (金)"),
    (0x322F, "(土) (日) (株) (有) (社) (名) (特) (財) (祝) (労) (代) (呼) (学) (監) (企)"),
    (0x323E, "(資) (協) (祭) (休) (自) (至) 問 幼 文 箏"),
    (0x3250, "pte 21 22 23 24 25 26 27 28 29 30 31 32 33 34 35 ᄀ ᄂ ᄃ ᄅ ᄆ ᄇ ᄉ ᄋ ᄌ"),
    (0x327C, "참고 주의"),
    (0x32B1, "36 37 38 39 40 41 42 43 44 45 46 47 48 49 50 1月 2月 3月 4月 5月 6月 7月 8月"),
    (0x32C8, "9月 10月 11月 12月 hg erg ev ltd"),
    (0x32FF, "令和 アパート アルファ アンペア アール イニング インチ ウォン エスクード"),
    (0x3308, "エーカー オンス オーム カイリ カラット カロリー ガロン ガンマ ギガ ギニー"),
    (0x3312, "キュリー ギルダー キロ キログラム キロメートル キロワット グラム グラムトン"),
    (0x331A, "クルゼイロ クローネ ケース コルナ コーポ サイクル サンチーム シリング センチ"),
    (0x3323, "セント ダース デシ ドル トン ナノ ノット ハイツ パーセント パーツ バーレル"),
    (0x332E, "ピアストル ピクル ピコ ビル ファラッド フィート ブッシェル フラン ヘクタール"),
    (0x3337, "ペソ ペニヒ ヘルツ ペンス ページ ベータ ポイント ボルト ホン ポンド ホール"),
    (0x3342, "ホーン マイクロ マイル マッハ マルク マンション ミクロン ミリ ミリバール メガ"),
    (0x334C, "メガトン メートル ヤード ヤール ユアン リットル リラ ルピー ルーブル レム"),
    (0x3356, "レントゲン ワット 0点 1点 2点 3点 4点 5点 6点 7点 8点 9点 10点 11点 12点 13点"),
    (0x3366, "14点 15点 16点 17点 18点 19点 20点 21点 22点 23点 24点 hpa da au bar ov pc dm"),
    (0x3378, "dm2 dm3 iu 平成 昭和 大正 明治 株式会社 pa na μa ma ka kb mb gb cal kcal pf"),
    (0x338B, "nf μf μg mg kg hz khz mhz ghz thz μl ml dl kl fm nm μm mm cm km mm2 cm2 m2"),
    (0x33A2, "km2 mm3 cm3 m3 km3 m∕s m∕s2 pa kpa mpa gpa rad rad∕s rad∕s2 ps ns μs ms pv nv"),
    (0x33B6, "μv mv kv mv pw nw μw mw kw mw kω mω"),
    (0x33C3, "bq cc cd c∕kg"),
    (0x33C8, "db gy ha hp in kk km kt lm ln log lx mb mil mol ph"),
    (0x33D9, "ppm pr sr sv wb v∕m a∕m 1日 2日 3日 4日 5日 6日 7日 8日 9日 10日 11日 12日"),
    (0x33EC, "13日 14日 15日 16日 17日 18日 19日 20日 21日 22日 23日 24日 25日 26日 27日"),
    (0x33FB, "28日 29日 30日 31日 gal"),
    (0xFB00, "ff fi fl ffi ffl st st"),
    (0xFB13, "մն մե մի վն մխ"),
    (0xFB1D, "\u05d9\u05b4 \ufb1e \u05f2\u05b7 \u05e2 \u05d0 \u05d3 \u05d4 \u05db \u05dc"),
    (0xFB26, "\u05dd \u05e8 \u05ea + \u05e9\u05c1 \u05e9\u05c2 \u05e9\u05bc\u05c1"),
    (0xFB2D, "\u05e9\u05bc\u05c2 \u05d0\u05b7 \u05d0\u05b8 \u05d0\u05bc \u05d1\u05bc"),
    (0xFB32, "\u05d2\u05bc \u05d3\u05bc \u05d4\u05bc \u05d5\u05bc \u05d6\u05bc"),
    (0xFB38, "\u05d8\u05bc \u05d9\u05bc \u05da\u05bc \u05db\u05bc \u05dc\u05bc"),
    (0xFB3E, "\u05de\u05bc"),
    (0xFB40, "\u05e0\u05bc \u05e1\u05bc"),
    (0xFB43, "\u05e3\u05bc \u05e4\u05bc"),
    (0xFB46, "\u05e6\u05bc \u05e7\u05bc \u05e8\u05bc \u05e9\u05bc \u05ea\u05bc \u05d5\u05b9"),
    (0xFB4C, "\u05d1\u05bf \u05db\u05bf \u05e4\u05bf \u05d0\u05dc"),
    (0xFBD3, "\u06ad \u06ad \u06ad \u06ad \u06c7 \u06c7 \u06c6 \u06c6 \u06c8 \u06c8"),
    (0xFBDD, "\u06c7\u0674"),
    (0xFBEA, "\u0626\u0627 \u0626\u0627 \u0626\u06d5 \u0626\u06d5 \u0626\u0648 \u0626\u0648"),
    (0xFBF0, "\u0626\u06c7 \u0626\u06c7 \u0626\u06c6 \u0626\u06c6 \u0626\u06c8 \u0626\u06c8"),
    (0xFBF6, "\u0626\u06d0 \u0626\u06d0 \u0626\u06d0 \u0626\u0649 \u0626\u0649 \u0626\u0649"),
    (0xFBFC, "\u06cc \u06cc \u06cc \u06cc \u0626\u062c \u0626\u062d \u0626\u0645"),
    (0xFC03, "\u0626\u0649 \u0626\u064a \u0628\u062c \u0628\u062d \u0628\u062e \u0628\u0645"),
    (0xFC09, "\u0628\u0649 \u0628\u064a \u062a\u062c \u062a\u062d \u062a\u062e \u062a\u0645"),
    (0xFC0F, "\u062a\u0649 \u062a\u064a \u062b\u062c \u062b\u0645 \u062b\u0649 \u062b\u064a"),
    (0xFC15, "\u062c\u062d \u062c\u0645 \u062d\u062c \u062d\u0645 \u062e\u062c \u062e\u062d"),
    (0xFC1B, "\u062e\u0645 \u0633\u062c \u0633\u062d \u0633\u062e \u0633\u0645 \u0635\u062d"),
    (0xFC21, "\u0635\u0645 \u0636\u062c \u0636\u062d \u0636\u062e \u0636\u0645 \u0637\u062d"),
    (0xFC27, "\u0637\u0645 \u0638\u0645 \u0639\u062c \u0639\u0645 \u063a\u062c \u063a\u0645"),
    (0xFC2D, "\u0641\u062c \u0641\u062d \u0641\u062e \u0641\u0645 \u0641\u0649 \u0641\u064a"),
    (0xFC33, "\u0642\u062d \u0642\u0645 \u0642\u0649 \u0642\u064a \u0643\u0627 \u0643\u062c"),
    (0xFC39, "\u0643\u062d \u0643\u062e \u0643\u0644 \u0643\u0645 \u0643\u0649 \u0643\u064a"),
    (0xFC3F, "\u0644\u062c \u0644\u062d \u0644\u062e \u0644\u0645 \u0644\u0649 \u0644\u064a"),
    (0xFC45, "\u0645\u062c \u0645\u062d \u0645\u062e \u0645\u0645 \u0645\u0649 \u0645\u064a"),
    (0xFC4B, "\u0646\u062c \u0646\u062d \u0646\u062e \u0646\u0645 \u0646\u0649 \u0646\u064a"),
    (0xFC51, "\u0647\u062c \u0647\u0645 \u0647\u0649 \u0647\u064a \u064a\u062c \u064a\u062d"),
    (0xFC57, "\u064a\u062e \u064a\u0645 \u064a\u0649 \u064a\u064a \u0630\u0670 \u0631\u0670"),
    (0xFC5D, "\u0649\u0670"),
    (0xFC64, "\u0626\u0631 \u0626\u0632 \u0626\u0645 \u0626\u0646 \u0626\u0649 \u0626\u064a"),
    (0xFC6A, "\u0628\u0631 \u0628\u0632 \u0628\u0645 \u0628\u0646 \u0628\u0649 \u0628\u064a"),
    (0xFC70, "\u062a\u0631 \u062a\u0632 \u062a\u0645 \u062a\u0646 \u062a\u0649 \u062a\u064a"),
    (0xFC76, "\u062b\u0631 \u062b\u0632 \u062b\u0645 \u062b\u0646 \u062b\u0649 \u062b\u064a"),
    (0xFC7C, "\u0641\u0649 \u0641\u064a \u0642\u0649 \u0642\u064a \u0643\u0627 \u0643\u0644"),
    (0xFC82, "\u0643\u0645 \u0643\u0649 \u0643\u064a \u0644\u0645 \u0644\u0649 \u0644\u064a"),
    (0xFC88, "\u0645\u0627 \u0645\u0645 \u0646\u0631 \u0646\u0632 \u0646\u0645 \u0646\u0646"),
    (0xFC8E, "\u0646\u0649 \u0646\u064a \u0649\u0670 \u064a\u0631 \u064a\u0632 \u064a\u0645"),
    (0xFC94, "\u064a\u0646 \u064a\u0649 \u064a\u064a \u0626\u062c \u0626\u062d \u0626\u062e"),
    (0xFC9A, "\u0626\u0645 \u0626\u0647 \u0628\u062c \u0628\u062d \u0628\u062e \u0628\u0645"),
    (0xFCA0, "\u0628\u0647 \u062a\u062c \u062a\u062d \u062a\u062e \u062a\u0645 \u062a\u0647"),
    (0xFCA6, "\u062b\u0645 \u062c\u062d \u062c\u0645 \u062d\u062c \u062d\u0645 \u062e\u062c"),
    (0xFCAC, "\u062e\u0645 \u0633\u062c \u0633\u062d \u0633\u062e \u0633\u0645 \u0635\u062d"),
    (0xFCB2, "\u0635\u062e \u0635\u0645 \u0636\u062c \u0636\u062d \u0636\u062e \u0636\u0645"),
    (0xFCB8, "\u0637\u062d \u0638\u0645 \u0639\u062c \u0639\u0645 \u063a\u062c \u063a\u0645"),
    (0xFCBE, "\u0641\u062c \u0641\u062d \u0641\u062e \u0641\u0645 \u0642\u062d \u0642\u0645"),
    (0xFCC4, "\u0643\u062c \u0643\u062d \u0643\u062e \u0643\u0644 \u0643\u0645 \u0644\u062c"),
    (0xFCCA, "\u0644\u062d \u0644\u062e \u0644\u0645 \u0644\u0647 \u0645\u062c \u0645\u062d"),
    (0xFCD0, "\u0645\u062e \u0645\u0645 \u0646\u062c \u0646\u062d \u0646\u062e \u0646\u0645"),
    (0xFCD6, "\u0646\u0647 \u0647\u062c \u0647\u0645 \u0647\u0670 \u064a\u062c \u064a\u062d"),
    (0xFCDC, "\u064a\u062e \u064a\u0645 \u064a\u0647 \u0626\u0645 \u0626\u0647 \u0628\u0645"),
    (0xFCE2, "\u0628\u0647 \u062a\u0645 \u062a\u0647 \u062b\u0645 \u062b\u0647 \u0633\u0645"),
    (0xFCE8, "\u0633\u0647 \u0634\u0645 \u0634\u0647 \u0643\u0644 \u0643\u0645 \u0644\u0645"),
    (0xFCEE, "\u0646\u0645 \u0646\u0647 \u064a\u0645 \u064a\u0647 \u0640\u064e\u0651"),
    (0xFCF3, "\u0640\u064f\u0651 \u0640\u0650\u0651 \u0637\u0649 \u0637\u064a \u0639\u0649"),
    (0xFCF8, "\u0639\u064a \u063a\u0649 \u063a\u064a \u0633\u0649 \u0633\u064a \u0634\u0649"),
    (0xFCFE, "\u0634\u064a \u062d\u0649 \u062d\u064a \u062c\u0649 \u062c\u064a \u062e\u0649"),
    (0xFD04, "\u062e\u064a \u0635\u0649 \u0635\u064a \u0636\u0649 \u0636\u064a \u0634\u062c"),
    (0xFD0A, "\u0634\u062d \u0634\u062e \u0634\u0645 \u0634\u0631 \u0633\u0631 \u0635\u0631"),
    (0xFD10, "\u0636\u0631 \u0637\u0649 \u0637\u064a \u0639\u0649 \u0639\u064a \u063a\u0649"),
    (0xFD16, "\u063a\u064a \u0633\u0649 \u0633\u064a \u0634\u0649 \u0634\u064a \u062d\u0649"),
    (0xFD1C, "\u062d\u064a \u062c\u0649 \u062c\u064a \u062e\u0649 \u062e\u064a \u0635\u0649"),
    (0xFD22, "\u0635\u064a \u0636\u0649 \u0636\u064a \u0634\u062c \u0634\u062d \u0634\u062e"),
    (0xFD28, "\u0634\u0645 \u0634\u0631 \u0633\u0631 \u0635\u0631 \u0636\u0631 \u0634\u062c"),
    (0xFD2E, "\u0634\u062d \u0634\u062e \u0634\u0645 \u0633\u0647 \u0634\u0647 \u0637\u0645"),
    (0xFD34, "\u0633\u062c \u0633\u062d \u0633\u062e \u0634\u062c \u0634\u062d \u0634\u062e"),
    (0xFD3A, "\u0637\u0645 \u0638\u0645 \u0627\u064b \u0627\u064b"),
    (0xFD50, "\u062a\u062c\u0645 \u062a\u062d\u062c \u062a\u062d\u062c \u062a\u062d\u0645"),
    (0xFD54, "\u062a\u062e\u0645 \u062a\u0645\u062c \u062a\u0645\u062d \u062a\u0645\u062e"),
    (0xFD58, "\u062c\u0645\u062d \u062c\u0645\u062d \u062d\u0645\u064a \u062d\u0645\u0649"),
    (0xFD5C, "\u0633\u062d\u062c \u0633\u062c\u062d \u0633\u062c\u0649 \u0633\u0645\u062d"),
    (0xFD60, "\u0633\u0645\u062d \u0633\u0645\u062c \u0633\u0645\u0645 \u0633\u0645\u0645"),
    (0xFD64, "\u0635\u062d\u062d \u0635\u062d\u062d \u0635\u0645\u0645 \u0634\u062d\u0645"),
    (0xFD68, "\u0634\u062d\u0645 \u0634\u062c\u064a \u0634\u0645\u062e \u0634\u0645\u062e"),
    (0xFD6C, "\u0634\u0645\u0645 \u0634\u0645\u0645 \u0636\u062d\u0649 \u0636\u062e\u0645"),
    (0xFD70, "\u0636\u062e\u0645 \u0637\u0645\u062d \u0637\u0645\u062d \u0637\u0645\u0645"),
    (0xFD74, "\u0637\u0645\u064a \u0639\u062c\u0645 \u0639\u0645\u0645 \u0639\u0645\u0645"),
    (0xFD78, "\u0639\u0645\u0649 \u063a\u0645\u0645 \u063a\u0645\u064a \u063a\u0645\u0649"),
    (0xFD7C, "\u0641\u062e\u0645 \u0641\u062e\u0645 \u0642\u0645\u062d \u0642\u0645\u0645"),
    (0xFD80, "\u0644\u062d\u0645 \u0644\u062d\u064a \u0644\u062d\u0649 \u0644\u062c\u062c"),
    (0xFD84, "\u0644\u062c\u062c \u0644\u062e\u0645 \u0644\u062e\u0645 \u0644\u0645\u062d"),
    (0xFD88, "\u0644\u0645\u062d \u0645\u062d\u062c \u0645\u062d\u0645 \u0645\u062d\u064a"),
    (0xFD8C, "\u0645\u062c\u062d \u0645\u062c\u0645 \u0645\u062e\u062c \u0645\u062e\u0645"),
    (0xFD90, "\ufd90 \ufd91 \u0645\u062c\u062e \u0647\u0645\u062c \u0647\u0645\u0645"),
    (0xFD95, "\u0646\u062d\u0645 \u0646\u062d\u0649 \u0646\u062c\u0645 \u0646\u062c\u0645"),
    (0xFD99, "\u0646\u062c\u0649 \u0646\u0645\u064a \u0646\u0645\u0649 \u064a\u0645\u0645"),
    (0xFD9D, "\u064a\u0645\u0645 \u0628\u062e\u064a \u062a\u062c\u064a \u062a\u062c\u0649"),
    (0xFDA1, "\u062a\u062e\u064a \u062a\u062e\u0649 \u062a\u0645\u064a \u062a\u0645\u0649"),
    (0xFDA5, "\u062c\u0645\u064a \u062c\u062d\u0649 \u062c\u0645\u0649 \u0633\u062e\u0649"),
    (0xFDA9, "\u0635\u062d\u064a \u0634\u062d\u064a \u0636\u062d\u064a \u0644\u062c\u064a"),
    (0xFDAD, "\u0644\u0645\u064a \u064a\u062d\u064a \u064a\u062c\u064a \u064a\u0645\u064a"),
    (0xFDB1, "\u0645\u0645\u064a \u0642\u0645\u064a \u0646\u062d\u064a \u0642\u0645\u062d"),
    (0xFDB5, "\u0644\u062d\u0645 \u0639\u0645\u064a \u0643\u0645\u064a \u0646\u062c\u062d"),
    (0xFDB9, "\u0645\u062e\u064a \u0644\u062c\u0645 \u0643\u0645\u0645 \u0644\u062c\u0645"),
    (0xFDBD, "\u0646\u062c\u062d \u062c\u062d\u064a \u062d\u062c\u064a \u0645\u062c\u064a"),
    (0xFDC1, "\u0641\u0645\u064a \u0628\u062d\u064a \u0643\u0645\u0645 \u0639\u062c\u0645"),
    (0xFDC5, "\u0635\u0645\u0645 \u0633\u062e\u064a \u0646\u062c\u064a"),
    (0xFDF0, "\u0635\u0644\u06d2 \u0642\u0644\u06d2 \u0627\u0644\u0644\u0647"),
    (0xFDF3, "\u0627\u0643\u0628\u0631 \u0645\u062d\u0645\u062f \u0635\u0644\u0639\u0645"),
    (0xFDF6, "\u0631\u0633\u0648\u0644 \u0639\u0644\u064a\u0647 \u0648\u0633\u0644\u0645"),
    (0xFDF9, "\u0635\u0644\u0649"),
    (0xFDFC, "\u0631\u06cc\u0627\u0644"),
    (0xFE71, "\u0640\u064b"),
    (0xFE77, "\u0640\u064e"),
    (0xFE79, "\u0640\u064f"),
    (0xFE7B, "\u0640\u0650"),
    (0xFE7D, "\u0640\u0651"),
    (0xFE7F, "\u0640\u0652"),
    (0xFEF5, "\u0644\u0622 \u0644\u0622 \u0644\u0623 \u0644\u0623 \u0644\u0625 \u0644\u0625"),
    (0xFEFB, "\u0644\u0627 \u0644\u0627"),
    (0x1D15E, "𝅗𝅥 𝅘𝅥 𝅘𝅥𝅮 𝅘𝅥𝅯 𝅘𝅥𝅰 𝅘𝅥𝅱 𝅘𝅥𝅲"),
    (0x1D1BB, "𝆹𝅥 𝆺𝅥 𝆹𝅥𝅮 𝆺𝅥𝅮 𝆹𝅥𝅯 𝆺𝅥𝅯"),
    (0x1F101, "0, 1, 2, 3, 4, 5, 6, 7, 8, 9,"),
    (0x1F110, "(a) (b) (c) (d) (e) (f) (g) (h) (i) (j) (k) (l) (m) (n) (o) (p) (q) (r) (s)"),
    (0x1F123, "(t) (u) (v) (w) (x) (y) (z) 〔s〕 c r cd wz"),
    (0x1F14A, "hv mv sd ss ppv wc"),
    (0x1F16A, "mc md mr"),
    (0x1F190, "dj"),
    (0x1F200, "ほか ココ サ"),
    (0x1F240, "〔本〕 〔三〕 〔二〕 〔安〕 〔点〕 〔打〕 〔盗〕 〔勝〕 〔敗〕")]

/-! ## 2. Images -/

/-- The image in the progressions. -/
def shifted? (n : Nat) : Option (List Char) :=
  shiftedProgressions.findSome? fun (first, last, step, image) =>
    if first ≤ n && n ≤ last && (n - first) % step == 0 then
      some [Char.ofNat (image + (n - first))]
    else none

/-- The image in the runs of single characters. -/
def letter? (n : Nat) : Option (List Char) :=
  letterRuns.findSome? fun (first, images) =>
    if first ≤ n then (images.toList[n - first]?).map fun c => [c] else none

/-- The image in the runs of texts. -/
def text? (n : Nat) : Option (List Char) :=
  textRuns.findSome? fun (first, images) =>
    if first ≤ n then (cut (· == ' ') images.toList)[n - first]? else none

/-- The image of a character beyond ASCII that stands for others. -/
def listed? (n : Nat) : Option (List Char) :=
  if inIntervals silentIntervals n then some []
  else if inIntervals spaceIntervals n then some [' ']
  else (shifted? n).or ((letter? n).or (text? n))

/-- **What a character of a domain stands for**; none if no domain has it. -/
def image? (c : Char) : Option (List Char) :=
  if c.toNat < 128 then some [c.toLower]
  else if isAllowed c then some ((listed? c.toNat).getD [c])
  else none

end ApiPages.Domain
