import DocComments.Text.WordTable

/-!
# Folding of labels

What single characters become in a label of a domain name, where case and style do not count.
-/

namespace DocComments.Text.DomainName

/-- The characters that become others. -/
def foldings : WordTable :=
  [ (0x41, "a§b§c§d§e§f§g§h§i§j§k§l§m§n§o§p§q§r§s§t§u§v§w§x§y§z"),
    (0xB5, "μ§§§§§§§§§§§à§á§â§ã§ä§å§æ§ç§è§é§ê§ë§ì§í§î§ï§ð§ñ§ò§ó§ô§õ§ö§§ø§ù§ú§û§ü§ý§þ§ss"),
    (0x100,
      "ā§§ă§§ą§§ć§§ĉ§§ċ§§č§§ď§§đ§§ē§§ĕ§§ė§§ę§§ě§§ĝ§§ğ§§ġ§§ģ§§ĥ§§ħ§§ĩ§§ī§§ĭ§§į§§i\u0307§§ĳ§§ĵ§§" ++
      "ķ§§§ĺ§§ļ§§ľ§§ŀ§§ł§§ń§§ņ§§ň§§ʼn§ŋ§§ō§§ŏ§§ő§§œ§§ŕ§§ŗ§§ř§§ś§§ŝ§§ş§§š§§ţ§§ť§§ŧ§§ũ§§ū§§ŭ§§ů§" ++
      "§ű§§ų§§ŵ§§ŷ§§ÿ§ź§§ż§§ž§§s§§ɓ§ƃ§§ƅ§§ɔ§ƈ§§ɖ§ɗ§ƌ§§§ǝ§ə§ɛ§ƒ§§ɠ§ɣ§§ɩ§ɨ§ƙ§§§§ɯ§ɲ§§ɵ§ơ§§ƣ§§ƥ§§" ++
      "ʀ§ƨ§§ʃ§§§ƭ§§ʈ§ư§§ʊ§ʋ§ƴ§§ƶ§§ʒ§ƹ§§§§ƽ§§§§§§§§ǆ§ǆ§§ǉ§ǉ§§ǌ§ǌ§§ǎ§§ǐ§§ǒ§§ǔ§§ǖ§§ǘ§§ǚ§§ǜ§§§ǟ§§ǡ" ++
      "§§ǣ§§ǥ§§ǧ§§ǩ§§ǫ§§ǭ§§ǯ§§j\u030c§ǳ§ǳ§§ǵ§§ƕ§ƿ§ǹ§§ǻ§§ǽ§§ǿ§§ȁ§§ȃ§§ȅ§§ȇ§§ȉ§§ȋ§§ȍ§§ȏ§§ȑ§§ȓ§§ȕ§" ++
      "§ȗ§§ș§§ț§§ȝ§§ȟ§§ƞ§§ȣ§§ȥ§§ȧ§§ȩ§§ȫ§§ȭ§§ȯ§§ȱ§§ȳ§§§§§§§§ⱥ§ȼ§§ƚ§ⱦ§§§ɂ§§ƀ§ʉ§ʌ§ɇ§§ɉ§§ɋ§§ɍ§§ɏ"),
    (0x345, "ι"),
    (0x370,
      "ͱ§§ͳ§§§§ͷ§§§§ ι§§§§§ϳ§§§§§§§ά§§έ§ή§ί§§ό§§ύ§ώ§ι\u0308\u0301§α§β§γ§δ§ε§ζ§η§θ§ι§κ§λ§μ§ν§ξ§" ++
      "ο§π§ρ§§σ§τ§υ§φ§χ§ψ§ω§ϊ§ϋ§§§§§υ\u0308\u0301§§§§§§§§§§§§§§§§§§σ§§§§§§§§§§§§§ϗ§β§θ§υ§ύ§ϋ§φ" ++
      "§π§§ϙ§§ϛ§§ϝ§§ϟ§§ϡ§§ϣ§§ϥ§§ϧ§§ϩ§§ϫ§§ϭ§§ϯ§§κ§ρ§σ§§θ§ε§§ϸ§§σ§ϻ§§§ͻ§ͼ§ͽ§ѐ§ё§ђ§ѓ§є§ѕ§і§ї§ј§љ§" ++
      "њ§ћ§ќ§ѝ§ў§џ§а§б§в§г§д§е§ж§з§и§й§к§л§м§н§о§п§р§с§т§у§ф§х§ц§ч§ш§щ§ъ§ы§ь§э§ю§я"),
    (0x460,
      "ѡ§§ѣ§§ѥ§§ѧ§§ѩ§§ѫ§§ѭ§§ѯ§§ѱ§§ѳ§§ѵ§§ѷ§§ѹ§§ѻ§§ѽ§§ѿ§§ҁ§§§§§§§§§§ҋ§§ҍ§§ҏ§§ґ§§ғ§§ҕ§§җ§§ҙ§§қ§§ҝ" ++
      "§§ҟ§§ҡ§§ң§§ҥ§§ҧ§§ҩ§§ҫ§§ҭ§§ү§§ұ§§ҳ§§ҵ§§ҷ§§ҹ§§һ§§ҽ§§ҿ§§ӏ§ӂ§§ӄ§§ӆ§§ӈ§§ӊ§§ӌ§§ӎ§§§ӑ§§ӓ§§ӕ§§ӗ" ++
      "§§ә§§ӛ§§ӝ§§ӟ§§ӡ§§ӣ§§ӥ§§ӧ§§ө§§ӫ§§ӭ§§ӯ§§ӱ§§ӳ§§ӵ§§ӷ§§ӹ§§ӻ§§ӽ§§ӿ§§ԁ§§ԃ§§ԅ§§ԇ§§ԉ§§ԋ§§ԍ§§ԏ§§ԑ" ++
      "§§ԓ§§ԕ§§ԗ§§ԙ§§ԛ§§ԝ§§ԟ§§ԡ§§ԣ§§ԥ§§ԧ§§ԩ§§ԫ§§ԭ§§ԯ§§§ա§բ§գ§դ§ե§զ§է§ը§թ§ժ§ի§լ§խ§ծ§կ§հ§ձ§ղ§ճ§մ" ++
      "§յ§ն§շ§ո§չ§պ§ջ§ռ§ս§վ§տ§ր§ց§ւ§փ§ք§օ§ֆ"),
    (0x587, "եւ"),
    (0x10A0,
      "ⴀ§ⴁ§ⴂ§ⴃ§ⴄ§ⴅ§ⴆ§ⴇ§ⴈ§ⴉ§ⴊ§ⴋ§ⴌ§ⴍ§ⴎ§ⴏ§ⴐ§ⴑ§ⴒ§ⴓ§ⴔ§ⴕ§ⴖ§ⴗ§ⴘ§ⴙ§ⴚ§ⴛ§ⴜ§ⴝ§ⴞ§ⴟ§ⴠ§ⴡ§ⴢ§ⴣ§ⴤ§ⴥ§§ⴧ§§§§§§ⴭ"),
    (0x13A0,
      "ꭰ§ꭱ§ꭲ§ꭳ§ꭴ§ꭵ§ꭶ§ꭷ§ꭸ§ꭹ§ꭺ§ꭻ§ꭼ§ꭽ§ꭾ§ꭿ§ꮀ§ꮁ§ꮂ§ꮃ§ꮄ§ꮅ§ꮆ§ꮇ§ꮈ§ꮉ§ꮊ§ꮋ§ꮌ§ꮍ§ꮎ§ꮏ§ꮐ§ꮑ§ꮒ§ꮓ§ꮔ§ꮕ§ꮖ§ꮗ§ꮘ§ꮙ§ꮚ§ꮛ" ++
      "§ꮜ§ꮝ§ꮞ§ꮟ§ꮠ§ꮡ§ꮢ§ꮣ§ꮤ§ꮥ§ꮦ§ꮧ§ꮨ§ꮩ§ꮪ§ꮫ§ꮬ§ꮭ§ꮮ§ꮯ§ꮰ§ꮱ§ꮲ§ꮳ§ꮴ§ꮵ§ꮶ§ꮷ§ꮸ§ꮹ§ꮺ§ꮻ§ꮼ§ꮽ§ꮾ§ꮿ§ᏸ§ᏹ§ᏺ§ᏻ§ᏼ§ᏽ"),
    (0x1C90,
      "ა§ბ§გ§დ§ე§ვ§ზ§თ§ი§კ§ლ§მ§ნ§ო§პ§ჟ§რ§ს§ტ§უ§ფ§ქ§ღ§ყ§შ§ჩ§ც§ძ§წ§ჭ§ხ§ჯ§ჰ§ჱ§ჲ§ჳ§ჴ§ჵ§ჶ§ჷ§ჸ§ჹ§ჺ§§" ++
      "§ჽ§ჾ§ჿ"),
    (0x1E00,
      "ḁ§§ḃ§§ḅ§§ḇ§§ḉ§§ḋ§§ḍ§§ḏ§§ḑ§§ḓ§§ḕ§§ḗ§§ḙ§§ḛ§§ḝ§§ḟ§§ḡ§§ḣ§§ḥ§§ḧ§§ḩ§§ḫ§§ḭ§§ḯ§§ḱ§§ḳ§§ḵ§§ḷ§§ḹ§§" ++
      "ḻ§§ḽ§§ḿ§§ṁ§§ṃ§§ṅ§§ṇ§§ṉ§§ṋ§§ṍ§§ṏ§§ṑ§§ṓ§§ṕ§§ṗ§§ṙ§§ṛ§§ṝ§§ṟ§§ṡ§§ṣ§§ṥ§§ṧ§§ṩ§§ṫ§§ṭ§§ṯ§§ṱ§§ṳ§§" ++
      "ṵ§§ṷ§§ṹ§§ṻ§§ṽ§§ṿ§§ẁ§§ẃ§§ẅ§§ẇ§§ẉ§§ẋ§§ẍ§§ẏ§§ẑ§§ẓ§§ẕ§§h\u0331§t\u0308§w\u030a§y\u030a§aʾ§ṡ" ++
      "§§§ss§§ạ§§ả§§ấ§§ầ§§ẩ§§ẫ§§ậ§§ắ§§ằ§§ẳ§§ẵ§§ặ§§ẹ§§ẻ§§ẽ§§ế§§ề§§ể§§ễ§§ệ§§ỉ§§ị§§ọ§§ỏ§§ố§§ồ§§ổ§" ++
      "§ỗ§§ộ§§ớ§§ờ§§ở§§ỡ§§ợ§§ụ§§ủ§§ứ§§ừ§§ử§§ữ§§ự§§ỳ§§ỵ§§ỷ§§ỹ§§ỻ§§ỽ§§ỿ§§§§§§§§§§ἀ§ἁ§ἂ§ἃ§ἄ§ἅ§ἆ§ἇ" ++
      "§§§§§§§§§ἐ§ἑ§ἒ§ἓ§ἔ§ἕ§§§§§§§§§§§ἠ§ἡ§ἢ§ἣ§ἤ§ἥ§ἦ§ἧ§§§§§§§§§ἰ§ἱ§ἲ§ἳ§ἴ§ἵ§ἶ§ἷ§§§§§§§§§ὀ§ὁ§ὂ§ὃ§" ++
      "ὄ§ὅ§§§υ\u0313§§υ\u0313\u0300§§υ\u0313\u0301§§υ\u0313\u0342§§§ὑ§§ὓ§§ὕ§§ὗ§§§§§§§§§ὠ§ὡ§ὢ§ὣ" ++
      "§ὤ§ὥ§ὦ§ὧ§§§§§§§§§§§§§§§§§ἀι§ἁι§ἂι§ἃι§ἄι§ἅι§ἆι§ἇι§ἀι§ἁι§ἂι§ἃι§ἄι§ἅι§ἆι§ἇι§ἠι§ἡι§ἢι§ἣι§ἤι" ++
      "§ἥι§ἦι§ἧι§ἠι§ἡι§ἢι§ἣι§ἤι§ἥι§ἦι§ἧι§ὠι§ὡι§ὢι§ὣι§ὤι§ὥι§ὦι§ὧι§ὠι§ὡι§ὢι§ὣι§ὤι§ὥι§ὦι§ὧι§§§ὰι§" ++
      "αι§άι§§α\u0342§α\u0342ι§ᾰ§ᾱ§ὰ§ά§αι§§ι§§§§ὴι§ηι§ήι§§η\u0342§η\u0342ι§ὲ§έ§ὴ§ή§ηι§§§§§§ι" ++
      "\u0308\u0300§ι\u0308\u0301§§§ι\u0342§ι\u0308\u0342§ῐ§ῑ§ὶ§ί§§§§§§§υ\u0308\u0300§υ\u0308" ++
      "\u0301§ρ\u0313§§υ\u0342§υ\u0308\u0342§ῠ§ῡ§ὺ§ύ§ῥ§§§§§§ὼι§ωι§ώι§§ω\u0342§ω\u0342ι§ὸ§ό§ὼ§ώ" ++
      "§ωι"),
    (0x20A8, "rs"),
    (0x2102,
      "c§°c§§§§ɛ§§°f§§h§h§h§§§i§i§l§§§n§no§§§p§q§r§r§r§§§sm§tel§tm§§z§§ω§§z§§k§å§b§c§§§e§f§ⅎ§m" ++
      "§§§§§§§§§§§γ§π§§§§§§d"),
    (0x2160, "ⅰ§ⅱ§ⅲ§ⅳ§ⅴ§ⅵ§ⅶ§ⅷ§ⅸ§ⅹ§ⅺ§ⅻ§ⅼ§ⅽ§ⅾ§ⅿ§§§§§§§§§§§§§§§§§§§§ↄ"),
    (0x24B6, "ⓐ§ⓑ§ⓒ§ⓓ§ⓔ§ⓕ§ⓖ§ⓗ§ⓘ§ⓙ§ⓚ§ⓛ§ⓜ§ⓝ§ⓞ§ⓟ§ⓠ§ⓡ§ⓢ§ⓣ§ⓤ§ⓥ§ⓦ§ⓧ§ⓨ§ⓩ"),
    (0x2C00,
      "ⰰ§ⰱ§ⰲ§ⰳ§ⰴ§ⰵ§ⰶ§ⰷ§ⰸ§ⰹ§ⰺ§ⰻ§ⰼ§ⰽ§ⰾ§ⰿ§ⱀ§ⱁ§ⱂ§ⱃ§ⱄ§ⱅ§ⱆ§ⱇ§ⱈ§ⱉ§ⱊ§ⱋ§ⱌ§ⱍ§ⱎ§ⱏ§ⱐ§ⱑ§ⱒ§ⱓ§ⱔ§ⱕ§ⱖ§ⱗ§ⱘ§ⱙ§ⱚ§ⱛ" ++
      "§ⱜ§ⱝ§ⱞ§ⱟ"),
    (0x2C60,
      "ⱡ§§ɫ§ᵽ§ɽ§§§ⱨ§§ⱪ§§ⱬ§§ɑ§ɱ§ɐ§ɒ§§ⱳ§§§ⱶ§§§§§§§§§ȿ§ɀ§ⲁ§§ⲃ§§ⲅ§§ⲇ§§ⲉ§§ⲋ§§ⲍ§§ⲏ§§ⲑ§§ⲓ§§ⲕ§§ⲗ§§ⲙ§§ⲛ" ++
      "§§ⲝ§§ⲟ§§ⲡ§§ⲣ§§ⲥ§§ⲧ§§ⲩ§§ⲫ§§ⲭ§§ⲯ§§ⲱ§§ⲳ§§ⲵ§§ⲷ§§ⲹ§§ⲻ§§ⲽ§§ⲿ§§ⳁ§§ⳃ§§ⳅ§§ⳇ§§ⳉ§§ⳋ§§ⳍ§§ⳏ§§ⳑ§§ⳓ§§ⳕ" ++
      "§§ⳗ§§ⳙ§§ⳛ§§ⳝ§§ⳟ§§ⳡ§§ⳣ§§§§§§§§§ⳬ§§ⳮ§§§§§ⳳ"),
    (0x3371,
      "hpa§§au§§ov§§§§§§§§§§§pa§na§μa§ma§ka§kb§mb§gb§§§pf§nf§μf§§§§hz§khz§mhz§ghz§thz§§§§§§§§§" ++
      "§§§§§§§§§§§§pa§kpa§mpa§gpa§§§§§§§§pv§nv§μv§mv§kv§mv§pw§nw§μw§mw§kw§mw§kω§mω§§bq§§§c∕kg§" ++
      "co.§db§gy§§hp§§kk§km§§§§§§§§§ph§§ppm§pr§§sv§wb"),
    (0xA640,
      "ꙁ§§ꙃ§§ꙅ§§ꙇ§§ꙉ§§ꙋ§§ꙍ§§ꙏ§§ꙑ§§ꙓ§§ꙕ§§ꙗ§§ꙙ§§ꙛ§§ꙝ§§ꙟ§§ꙡ§§ꙣ§§ꙥ§§ꙧ§§ꙩ§§ꙫ§§ꙭ§§§§§§§§§§§§§§§§§§§§" ++
      "ꚁ§§ꚃ§§ꚅ§§ꚇ§§ꚉ§§ꚋ§§ꚍ§§ꚏ§§ꚑ§§ꚓ§§ꚕ§§ꚗ§§ꚙ§§ꚛ"),
    (0xA722,
      "ꜣ§§ꜥ§§ꜧ§§ꜩ§§ꜫ§§ꜭ§§ꜯ§§§§ꜳ§§ꜵ§§ꜷ§§ꜹ§§ꜻ§§ꜽ§§ꜿ§§ꝁ§§ꝃ§§ꝅ§§ꝇ§§ꝉ§§ꝋ§§ꝍ§§ꝏ§§ꝑ§§ꝓ§§ꝕ§§ꝗ§§ꝙ§§ꝛ§§ꝝ" ++
      "§§ꝟ§§ꝡ§§ꝣ§§ꝥ§§ꝧ§§ꝩ§§ꝫ§§ꝭ§§ꝯ§§§§§§§§§§§ꝺ§§ꝼ§§ᵹ§ꝿ§§ꞁ§§ꞃ§§ꞅ§§ꞇ§§§§§ꞌ§§ɥ§§§ꞑ§§ꞓ§§§§ꞗ§§ꞙ§§ꞛ§" ++
      "§ꞝ§§ꞟ§§ꞡ§§ꞣ§§ꞥ§§ꞧ§§ꞩ§§ɦ§ɜ§ɡ§ɬ§ɪ§§ʞ§ʇ§ʝ§ꭓ§ꞵ§§ꞷ§§ꞹ§§ꞻ§§ꞽ§§ꞿ§§ꟁ§§ꟃ§§ꞔ§ʂ§ᶎ§ꟈ§§ꟊ§§§§§§§ꟑ§§§§" ++
      "§§ꟗ§§ꟙ"),
    (0xA7F5, "ꟶ"), (0xFB00, "ff§fi§fl§ffi§ffl§st§st§§§§§§§§§§§§§մն§մե§մի§վն§մխ"),
    (0xFF21, "ａ§ｂ§ｃ§ｄ§ｅ§ｆ§ｇ§ｈ§ｉ§ｊ§ｋ§ｌ§ｍ§ｎ§ｏ§ｐ§ｑ§ｒ§ｓ§ｔ§ｕ§ｖ§ｗ§ｘ§ｙ§ｚ"),
    (0x10400, "𐐨§𐐩§𐐪§𐐫§𐐬§𐐭§𐐮§𐐯§𐐰§𐐱§𐐲§𐐳§𐐴§𐐵§𐐶§𐐷§𐐸§𐐹§𐐺§𐐻§𐐼§𐐽§𐐾§𐐿§𐑀§𐑁§𐑂§𐑃§𐑄§𐑅§𐑆§𐑇§𐑈§𐑉§𐑊§𐑋§𐑌§𐑍§𐑎§𐑏"),
    (0x104B0, "𐓘§𐓙§𐓚§𐓛§𐓜§𐓝§𐓞§𐓟§𐓠§𐓡§𐓢§𐓣§𐓤§𐓥§𐓦§𐓧§𐓨§𐓩§𐓪§𐓫§𐓬§𐓭§𐓮§𐓯§𐓰§𐓱§𐓲§𐓳§𐓴§𐓵§𐓶§𐓷§𐓸§𐓹§𐓺§𐓻"),
    (0x10570, "𐖗§𐖘§𐖙§𐖚§𐖛§𐖜§𐖝§𐖞§𐖟§𐖠§𐖡§§𐖣§𐖤§𐖥§𐖦§𐖧§𐖨§𐖩§𐖪§𐖫§𐖬§𐖭§𐖮§𐖯§𐖰§𐖱§§𐖳§𐖴§𐖵§𐖶§𐖷§𐖸§𐖹§§𐖻§𐖼"),
    (0x10C80,
      "𐳀§𐳁§𐳂§𐳃§𐳄§𐳅§𐳆§𐳇§𐳈§𐳉§𐳊§𐳋§𐳌§𐳍§𐳎§𐳏§𐳐§𐳑§𐳒§𐳓§𐳔§𐳕§𐳖§𐳗§𐳘§𐳙§𐳚§𐳛§𐳜§𐳝§𐳞§𐳟§𐳠§𐳡§𐳢§𐳣§𐳤§𐳥§𐳦§𐳧§𐳨§𐳩§𐳪§𐳫" ++
      "§𐳬§𐳭§𐳮§𐳯§𐳰§𐳱§𐳲"),
    (0x118A0, "𑣀§𑣁§𑣂§𑣃§𑣄§𑣅§𑣆§𑣇§𑣈§𑣉§𑣊§𑣋§𑣌§𑣍§𑣎§𑣏§𑣐§𑣑§𑣒§𑣓§𑣔§𑣕§𑣖§𑣗§𑣘§𑣙§𑣚§𑣛§𑣜§𑣝§𑣞§𑣟"),
    (0x16E40, "𖹠§𖹡§𖹢§𖹣§𖹤§𖹥§𖹦§𖹧§𖹨§𖹩§𖹪§𖹫§𖹬§𖹭§𖹮§𖹯§𖹰§𖹱§𖹲§𖹳§𖹴§𖹵§𖹶§𖹷§𖹸§𖹹§𖹺§𖹻§𖹼§𖹽§𖹾§𖹿"),
    (0x1D400, "a§b§c§d§e§f§g§h§i§j§k§l§m§n§o§p§q§r§s§t§u§v§w§x§y§z"),
    (0x1D434, "a§b§c§d§e§f§g§h§i§j§k§l§m§n§o§p§q§r§s§t§u§v§w§x§y§z"),
    (0x1D468, "a§b§c§d§e§f§g§h§i§j§k§l§m§n§o§p§q§r§s§t§u§v§w§x§y§z"),
    (0x1D49C, "a§§c§d§§§g§§§j§k§§§n§o§p§q§§s§t§u§v§w§x§y§z"),
    (0x1D4D0, "a§b§c§d§e§f§g§h§i§j§k§l§m§n§o§p§q§r§s§t§u§v§w§x§y§z"),
    (0x1D504, "a§b§§d§e§f§g§§§j§k§l§m§n§o§p§q§§s§t§u§v§w§x§y"),
    (0x1D538, "a§b§§d§e§f§g§§i§j§k§l§m§§o§§§§s§t§u§v§w§x§y"),
    (0x1D56C, "a§b§c§d§e§f§g§h§i§j§k§l§m§n§o§p§q§r§s§t§u§v§w§x§y§z"),
    (0x1D5A0, "a§b§c§d§e§f§g§h§i§j§k§l§m§n§o§p§q§r§s§t§u§v§w§x§y§z"),
    (0x1D5D4, "a§b§c§d§e§f§g§h§i§j§k§l§m§n§o§p§q§r§s§t§u§v§w§x§y§z"),
    (0x1D608, "a§b§c§d§e§f§g§h§i§j§k§l§m§n§o§p§q§r§s§t§u§v§w§x§y§z"),
    (0x1D63C, "a§b§c§d§e§f§g§h§i§j§k§l§m§n§o§p§q§r§s§t§u§v§w§x§y§z"),
    (0x1D670, "a§b§c§d§e§f§g§h§i§j§k§l§m§n§o§p§q§r§s§t§u§v§w§x§y§z"),
    (0x1D6A8,
      "α§β§γ§δ§ε§ζ§η§θ§ι§κ§λ§μ§ν§ξ§ο§π§ρ§θ§σ§τ§υ§φ§χ§ψ§ω§§§§§§§§§§§§§§§§§§§σ§§§§§§§§§§§§§§§α§β" ++
      "§γ§δ§ε§ζ§η§θ§ι§κ§λ§μ§ν§ξ§ο§π§ρ§θ§σ§τ§υ§φ§χ§ψ§ω§§§§§§§§§§§§§§§§§§§σ§§§§§§§§§§§§§§§α§β§γ§" ++
      "δ§ε§ζ§η§θ§ι§κ§λ§μ§ν§ξ§ο§π§ρ§θ§σ§τ§υ§φ§χ§ψ§ω§§§§§§§§§§§§§§§§§§§σ§§§§§§§§§§§§§§§α§β§γ§δ§ε" ++
      "§ζ§η§θ§ι§κ§λ§μ§ν§ξ§ο§π§ρ§θ§σ§τ§υ§φ§χ§ψ§ω§§§§§§§§§§§§§§§§§§§σ§§§§§§§§§§§§§§§α§β§γ§δ§ε§ζ§" ++
      "η§θ§ι§κ§λ§μ§ν§ξ§ο§π§ρ§θ§σ§τ§υ§φ§χ§ψ§ω§§§§§§§§§§§§§§§§§§§σ"),
    (0x1E900, "𞤢§𞤣§𞤤§𞤥§𞤦§𞤧§𞤨§𞤩§𞤪§𞤫§𞤬§𞤭§𞤮§𞤯§𞤰§𞤱§𞤲§𞤳§𞤴§𞤵§𞤶§𞤷§𞤸§𞤹§𞤺§𞤻§𞤼§𞤽§𞤾§𞤿§𞥀§𞥁§𞥂§𞥃")]

end DocComments.Text.DomainName
