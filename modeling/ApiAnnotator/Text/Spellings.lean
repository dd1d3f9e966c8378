import ApiAnnotator.Text.Transliteration

/-!
# Spellings

The speller that the program runs with. Most spellings are listed, in rows of neighbours: letters
keep their sound and lose their marks, signs are spelled by signs, and a pictograph has its name
between colons. The syllables of Hangul are put together from their letters, and the alphabets in
bold, italic and other faces repeat the plain one. The list is not complete: a character that it
leaves out has the empty spelling.

What is proved about names is proved for every speller. Only runs take this one, and theorems about
fixed names, which are all in ASCII and so have the same spelling with any speller.

## Main definitions

* `Row`, `rows` — the spellings that are listed.
* `syllable?` — the spelling of a syllable of Hangul.
* `spelling` — the spelling of a character by its code point.
* `listedSpeller` — the speller made of them.
-/

namespace ApiAnnotator.Text

/-- The spellings of neighbouring characters, from the first code point on. -/
structure Row where
  first : Nat
  spellings : List String

/-- The spelling in a row of the character with a code point. -/
def Row.spelling? (row : Row) (code : Nat) : Option String :=
  if row.first ≤ code then row.spellings[code - row.first]? else none

/-- The characters whose spellings are listed, in increasing order. -/
def rows : List Row :=
  [⟨0x00A0, [" ", "!", "c", "GBP", "$", "JPY", "|", "S", "\"", "(C)", "a", "<<", "!"]⟩,
    ⟨0x00AE, ["(R)", "-", "deg", "+-", "2", "3", "'", "u", "P", ".", ",", "1", "o", ">>", "1/4",
      "1/2", "3/4", "?", "A", "A", "A", "A", "A", "A", "Ae", "C", "E", "E", "E", "E", "I", "I", "I",
      "I", "D", "N", "O", "O", "O", "O", "O", "*", "O", "U", "U", "U", "U", "Y", "Th", "ss", "a",
      "a", "a", "a", "a", "a", "ae", "c", "e", "e", "e", "e", "i", "i", "i", "i", "d", "n", "o",
      "o", "o", "o", "o", "/", "o", "u", "u", "u", "u", "y", "th", "y", "A", "a", "A", "a", "A",
      "a", "C", "c", "C", "c", "C", "c", "C", "c", "D", "d", "D", "d", "E", "e", "E", "e", "E", "e",
      "E", "e", "E", "e", "G", "g", "G", "g", "G", "g", "G", "g", "H", "h", "H", "h", "I", "i", "I",
      "i", "I", "i", "I", "i", "I", "i", "IJ", "ij", "J", "j", "K", "k", "k", "L", "l", "L", "l",
      "L", "l", "L", "l", "L", "l", "N", "n", "N", "n", "N", "n", "'n", "Ng", "ng", "O", "o", "O",
      "o", "O", "o", "Oe", "oe", "R", "r", "R", "r", "R", "r", "S", "s", "S", "s", "S", "s", "S",
      "s", "T", "t", "T", "t", "T", "t", "U", "u", "U", "u", "U", "u", "U", "u", "U", "u", "U", "u",
      "W", "w", "Y", "y", "Y", "Z", "z", "Z", "z", "Z", "z", "s", "b"]⟩, ⟨0x0192, ["f"]⟩,
    ⟨0x0197, ["I"]⟩, ⟨0x01A0, ["O", "o"]⟩, ⟨0x01AF, ["U", "u"]⟩, ⟨0x01B5, ["Z", "z"]⟩,
    ⟨0x01C4, ["DZ", "Dz", "dz", "LJ", "Lj", "lj", "NJ", "Nj", "nj", "A", "a", "I", "i", "O", "o",
      "U", "u", "U", "u", "U", "u", "U", "u", "U", "u"]⟩,
    ⟨0x01DE, ["A", "a", "A", "a", "Ae", "ae", "G", "g", "G", "g", "K", "k", "O", "o", "O", "o"]⟩,
    ⟨0x01F0, ["j", "DZ", "Dz", "dz", "G", "g"]⟩,
    ⟨0x01F8, ["N", "n", "A", "a", "Ae", "ae", "O", "o", "A", "a", "A", "a", "E", "e", "E", "e", "I",
      "i", "I", "i", "O", "o", "O", "o", "R", "r", "R", "r", "U", "u", "U", "u", "S", "s", "T",
      "t"]⟩, ⟨0x021E, ["H", "h"]⟩,
    ⟨0x0226, ["A", "a", "E", "e", "O", "o", "O", "o", "O", "o", "O", "o", "Y", "y"]⟩,
    ⟨0x0237, ["j"]⟩, ⟨0x0386, ["A"]⟩, ⟨0x0388, ["E", "I", "I"]⟩, ⟨0x038C, ["O"]⟩,
    ⟨0x038E, ["Y", "O", "i", "A", "V", "G", "D", "E", "Z", "I", "Th", "I", "K", "L", "M", "N", "X",
      "O", "P", "R"]⟩,
    ⟨0x03A3, ["S", "T", "Y", "F", "Ch", "Ps", "O", "I", "Y", "a", "e", "i", "i", "y", "a", "v", "g",
      "d", "e", "z", "i", "th", "i", "k", "l", "m", "n", "x", "o", "p", "r", "s", "s", "t", "y",
      "f", "ch", "ps", "o", "i", "y", "o", "y", "o"]⟩,
    ⟨0x0401, ["Yo", "Dj", "G", "Ye", "Dz", "I", "Yi", "J", "Lj", "Nj", "C", "K"]⟩,
    ⟨0x040E, ["U", "Dz", "A", "B", "V", "G", "D", "E", "Zh", "Z", "I", "Y", "K", "L", "M", "N", "O",
      "P", "R", "S", "T", "U", "F", "Kh", "Ts", "Ch", "Sh", "Shch", "'", "Y", "'", "E", "Yu", "Ya",
      "a", "b", "v", "g", "d", "e", "zh", "z", "i", "y", "k", "l", "m", "n", "o", "p", "r", "s",
      "t", "u", "f", "kh", "ts", "ch", "sh", "shch", "'", "y", "'", "e", "yu", "ya"]⟩,
    ⟨0x0451, ["yo", "dj", "g", "ye", "dz", "i", "yi", "j", "lj", "nj", "c", "k"]⟩,
    ⟨0x045E, ["u", "dz"]⟩, ⟨0x0490, ["G", "g"]⟩, ⟨0x05D2, ["g", "d", "h", "v", "z"]⟩,
    ⟨0x05D8, ["t", "y", "k", "k", "l", "m", "m", "n", "n", "s"]⟩,
    ⟨0x05E5, ["ts", "ts", "k", "r", "s", "t"]⟩, ⟨0x0628, ["b"]⟩,
    ⟨0x062A, ["t", "th", "j", "h", "kh", "d", "dh", "r", "z", "s", "sh", "s", "d", "t", "z"]⟩,
    ⟨0x063A, ["gh"]⟩, ⟨0x0641, ["f", "q", "k"]⟩, ⟨0x0645, ["m", "n", "h", "w"]⟩, ⟨0x064A, ["y"]⟩,
    ⟨0x0660, ["0", "1", "2", "3", "4", "5", "6", "7", "8", "9"]⟩,
    ⟨0x06F0, ["0", "1", "2", "3", "4", "5", "6", "7", "8", "9"]⟩, ⟨0x0902, ["m"]⟩,
    ⟨0x0905, ["a", "a", "i", "i", "u", "u"]⟩, ⟨0x090F, ["e", "ai"]⟩,
    ⟨0x0913, ["o", "au", "k", "kh", "g", "gh"]⟩, ⟨0x091A, ["c", "ch", "j", "jh"]⟩,
    ⟨0x091F, ["t", "th", "d", "dh", "n", "t", "th", "d", "dh", "n"]⟩,
    ⟨0x092A, ["p", "ph", "b", "bh", "m", "y", "r"]⟩, ⟨0x0932, ["l"]⟩,
    ⟨0x0935, ["v", "s", "s", "s", "h"]⟩, ⟨0x093E, ["a", "i", "i", "u", "u"]⟩, ⟨0x0947, ["e", "ai"]⟩,
    ⟨0x094B, ["o", "au"]⟩, ⟨0x0966, ["0", "1", "2", "3", "4", "5", "6", "7", "8", "9"]⟩,
    ⟨0x0E01, ["k", "kh"]⟩, ⟨0x0E04, ["kh"]⟩, ⟨0x0E07, ["ng", "ch", "ch", "ch", "s"]⟩,
    ⟨0x0E0D, ["y"]⟩,
    ⟨0x0E14, ["d", "t", "th", "th", "th", "n", "b", "p", "ph", "f", "ph", "f", "ph", "m", "y",
      "r"]⟩, ⟨0x0E25, ["l"]⟩, ⟨0x0E27, ["w", "s", "s", "s", "h"]⟩, ⟨0x0E30, ["a", "a", "a"]⟩,
    ⟨0x0E34, ["i", "i"]⟩, ⟨0x0E38, ["u", "u"]⟩, ⟨0x0E40, ["e", "ae", "o", "ai", "ai"]⟩,
    ⟨0x0E50, ["0", "1", "2", "3", "4", "5", "6", "7", "8", "9"]⟩,
    ⟨0x1E00, ["A", "a", "B", "b", "B", "b", "B", "b", "C", "c", "D", "d", "D", "d", "D", "d", "D",
      "d", "D", "d", "E", "e", "E", "e", "E", "e", "E", "e", "E", "e", "F", "f", "G", "g", "H", "h",
      "H", "h", "H", "h", "H", "h", "H", "h", "I", "i", "I", "i", "K", "k", "K", "k", "K", "k", "L",
      "l", "L", "l", "L", "l", "L", "l", "M", "m", "M", "m", "M", "m", "N", "n", "N", "n", "N", "n",
      "N", "n", "O", "o", "O", "o", "O", "o", "O", "o", "P", "p", "P", "p", "R", "r", "R", "r", "R",
      "r", "R", "r", "S", "s", "S", "s", "S", "s", "S", "s", "S", "s", "T", "t", "T", "t", "T", "t",
      "T", "t", "U", "u", "U", "u", "U", "u", "U", "u", "U", "u", "V", "v", "V", "v", "W", "w", "W",
      "w", "W", "w", "W", "w", "W", "w", "X", "x", "X", "x", "Y", "y", "Z", "z", "Z", "z", "Z", "z",
      "h", "t", "w", "y", "a"]⟩, ⟨0x1E9E, ["Ss"]⟩,
    ⟨0x1EA0, ["A", "a", "A", "a", "A", "a", "A", "a", "A", "a", "A", "a", "A", "a", "A", "a", "A",
      "a", "A", "a", "A", "a", "A", "a", "E", "e", "E", "e", "E", "e", "E", "e", "E", "e", "E", "e",
      "E", "e", "E", "e", "I", "i", "I", "i", "O", "o", "O", "o", "O", "o", "O", "o", "O", "o", "O",
      "o", "O", "o", "O", "o", "O", "o", "O", "o", "O", "o", "O", "o", "U", "u", "U", "u", "U", "u",
      "U", "u", "U", "u", "U", "u", "U", "u", "Y", "y", "Y", "y", "Y", "y", "Y", "y"]⟩,
    ⟨0x2000, [" ", " ", " ", " ", " ", " ", " ", " ", " ", " ", " "]⟩,
    ⟨0x2010, ["-", "-", "-", "-", "-", "-"]⟩, ⟨0x2018, ["'", "'", ",", "'", "\"", "\"", "\""]⟩,
    ⟨0x2020, ["+", "+", "*"]⟩, ⟨0x2024, [".", "..", "..."]⟩, ⟨0x2028, ["\n", "\n"]⟩,
    ⟨0x202F, [" ", "%0"]⟩, ⟨0x2032, ["'", "\""]⟩, ⟨0x2039, ["<", ">", "*", "!!"]⟩, ⟨0x2044, ["/"]⟩,
    ⟨0x2047, ["??", "?!", "!?"]⟩, ⟨0x205F, [" "]⟩, ⟨0x2070, ["0", "i"]⟩,
    ⟨0x2074, ["4", "5", "6", "7", "8", "9", "+", "-", "=", "(", ")", "n", "0", "1", "2", "3", "4",
      "5", "6", "7", "8", "9", "+", "-", "=", "(", ")"]⟩, ⟨0x20A9, ["KRW", "ILS", "VND", "EUR"]⟩,
    ⟨0x20B1, ["PHP"]⟩, ⟨0x20B4, ["UAH"]⟩, ⟨0x20B9, ["INR", "TRY"]⟩, ⟨0x20BD, ["RUB"]⟩,
    ⟨0x20BF, ["BTC"]⟩, ⟨0x2102, ["C", "C"]⟩, ⟨0x2109, ["F"]⟩, ⟨0x2113, ["l"]⟩,
    ⟨0x2115, ["N", "No", "(P)"]⟩, ⟨0x2119, ["P", "Q"]⟩, ⟨0x211D, ["R"]⟩,
    ⟨0x2120, ["SM", "TEL", "TM"]⟩, ⟨0x2124, ["Z"]⟩, ⟨0x212A, ["K", "A"]⟩,
    ⟨0x2150, ["1/7", "1/9", "1/10", "1/3", "2/3", "1/5", "2/5", "3/5", "4/5", "1/6", "5/6", "1/8",
      "3/8", "5/8", "7/8", "1/", "I", "II", "III", "IV", "V", "VI", "VII", "VIII", "IX", "X", "XI",
      "XII", "L", "C", "D", "M", "i", "ii", "iii", "iv", "v", "vi", "vii", "viii", "ix", "x", "xi",
      "xii", "l", "c", "d", "m"]⟩, ⟨0x2190, ["<-"]⟩, ⟨0x2192, ["->"]⟩, ⟨0x2194, ["<->"]⟩,
    ⟨0x2212, ["-"]⟩, ⟨0x2215, ["/"]⟩, ⟨0x2217, ["*"]⟩, ⟨0x221E, ["inf"]⟩, ⟨0x2248, ["~"]⟩,
    ⟨0x2260, ["!="]⟩, ⟨0x2264, ["<=", ">="]⟩, ⟨0x2728, [":sparkles:"]⟩, ⟨0x2764, [":heart:"]⟩,
    ⟨0x2B50, [":star:"]⟩, ⟨0x3000, [" ", ",", "."]⟩,
    ⟨0x3008, ["<", ">", "<<", ">>", "[", "]", "[", "]", "[", "]"]⟩, ⟨0x301C, ["~"]⟩,
    ⟨0x3041, ["a", "a", "i", "i", "u", "u", "e", "e", "o", "o", "ka", "ga", "ki", "gi", "ku", "gu",
      "ke", "ge", "ko", "go", "sa", "za", "shi", "ji", "su", "zu", "se", "ze", "so", "zo", "ta",
      "da", "chi", "ji", "tsu", "tsu", "zu", "te", "de", "to", "do", "na", "ni", "nu", "ne", "no",
      "ha", "ba", "pa", "hi", "bi", "pi", "fu", "bu", "pu", "he", "be", "pe", "ho", "bo", "po",
      "ma", "mi", "mu", "me", "mo", "ya", "ya", "yu", "yu", "yo", "yo", "ra", "ri", "ru", "re",
      "ro", "wa", "wa", "wi", "we", "wo", "n", "vu", "ka", "ke"]⟩,
    ⟨0x30A1, ["a", "a", "i", "i", "u", "u", "e", "e", "o", "o", "ka", "ga", "ki", "gi", "ku", "gu",
      "ke", "ge", "ko", "go", "sa", "za", "shi", "ji", "su", "zu", "se", "ze", "so", "zo", "ta",
      "da", "chi", "ji", "tsu", "tsu", "zu", "te", "de", "to", "do", "na", "ni", "nu", "ne", "no",
      "ha", "ba", "pa", "hi", "bi", "pi", "fu", "bu", "pu", "he", "be", "pe", "ho", "bo", "po",
      "ma", "mi", "mu", "me", "mo", "ya", "ya", "yu", "yu", "yo", "yo", "ra", "ri", "ru", "re",
      "ro", "wa", "wa", "wi", "we", "wo", "n", "vu", "ka", "ke", "va", "vi", "ve", "vo", ".", "-"]⟩,
    ⟨0x4E00, ["Yi"]⟩, ⟨0x4E03, ["Qi"]⟩, ⟨0x4E07, ["Wan"]⟩, ⟨0x4E09, ["San", "Shang", "Xia"]⟩,
    ⟨0x4E0D, ["Bu"]⟩, ⟨0x4E16, ["Shi"]⟩, ⟨0x4E1C, ["Dong"]⟩, ⟨0x4E2D, ["Zhong"]⟩, ⟨0x4E5D, ["Jiu"]⟩,
    ⟨0x4E66, ["Shu"]⟩, ⟨0x4E86, ["Le"]⟩, ⟨0x4E8C, ["Er"]⟩, ⟨0x4E94, ["Wu"]⟩, ⟨0x4EAC, ["Jing"]⟩,
    ⟨0x4EBA, ["Ren"]⟩, ⟨0x4ED6, ["Ta"]⟩, ⟨0x4F1A, ["Hui"]⟩, ⟨0x4F4E, ["Di"]⟩, ⟨0x4F60, ["Ni"]⟩,
    ⟨0x5143, ["Yuan"]⟩, ⟨0x516B, ["Ba"]⟩, ⟨0x516D, ["Liu"]⟩, ⟨0x5173, ["Guan"]⟩,
    ⟨0x5185, ["Nei", "Yuan"]⟩, ⟨0x5206, ["Fen"]⟩, ⟨0x524D, ["Qian"]⟩, ⟨0x529B, ["Li"]⟩,
    ⟨0x52A1, ["Wu"]⟩, ⟨0x5317, ["Bei"]⟩, ⟨0x5341, ["Shi"]⟩, ⟨0x5343, ["Qian"]⟩, ⟨0x5357, ["Nan"]⟩,
    ⟨0x53E3, ["Kou"]⟩, ⟨0x53F3, ["You"]⟩, ⟨0x540D, ["Ming"]⟩, ⟨0x5668, ["Qi"]⟩, ⟨0x56DB, ["Si"]⟩,
    ⟨0x56FD, ["Guo"]⟩, ⟨0x570B, ["Guo"]⟩, ⟨0x571F, ["Tu"]⟩, ⟨0x5728, ["Zai"]⟩, ⟨0x5730, ["Di"]⟩,
    ⟨0x578B, ["Xing"]⟩, ⟨0x5916, ["Wai"]⟩, ⟨0x5927, ["Da"]⟩, ⟨0x5929, ["Tian"]⟩, ⟨0x5973, ["Nu"]⟩,
    ⟨0x597D, ["Hao"]⟩, ⟨0x5B50, ["Zi"]⟩, ⟨0x5B57, ["Zi"]⟩, ⟨0x5B66, ["Xue"]⟩, ⟨0x5B78, ["Xue"]⟩,
    ⟨0x5BB6, ["Jia"]⟩, ⟨0x5C0F, ["Xiao"]⟩, ⟨0x5C71, ["Shan"]⟩, ⟨0x5DDD, ["Chuan"]⟩,
    ⟨0x5DE6, ["Zuo"]⟩, ⟨0x5E74, ["Nian"]⟩, ⟨0x5EA6, ["Du"]⟩, ⟨0x5F00, ["Kai"]⟩, ⟨0x5FC3, ["Xin"]⟩,
    ⟨0x611B, ["Ai"]⟩, ⟨0x6211, ["Wo"]⟩, ⟨0x6237, ["Hu"]⟩, ⟨0x624B, ["Shou"]⟩, ⟨0x636E, ["Ju"]⟩,
    ⟨0x6570, ["Shu"]⟩, ⟨0x6587, ["Wen"]⟩, ⟨0x65B0, ["Xin"]⟩, ⟨0x65E5, ["Ri"]⟩, ⟨0x65F6, ["Shi"]⟩,
    ⟨0x662F, ["Shi"]⟩, ⟨0x6642, ["Shi"]⟩, ⟨0x66F8, ["Shu"]⟩, ⟨0x6708, ["Yue", "You"]⟩,
    ⟨0x670D, ["Fu"]⟩, ⟨0x6728, ["Mu"]⟩, ⟨0x672C, ["Ben"]⟩, ⟨0x674E, ["Li"]⟩, ⟨0x6771, ["Dong"]⟩,
    ⟨0x6C17, ["Qi"]⟩, ⟨0x6C34, ["Shui"]⟩, ⟨0x6C49, ["Han"]⟩, ⟨0x6D4B, ["Ce"]⟩, ⟨0x6D77, ["Hai"]⟩,
    ⟨0x6E29, ["Wen"]⟩, ⟨0x6E2C, ["Ce"]⟩, ⟨0x6E2F, ["Gang"]⟩, ⟨0x6E7E, ["Wan"]⟩, ⟨0x6F22, ["Han"]⟩,
    ⟨0x7063, ["Wan"]⟩, ⟨0x706B, ["Huo"]⟩, ⟨0x70B9, ["Dian"]⟩, ⟨0x7231, ["Ai"]⟩, ⟨0x738B, ["Wang"]⟩,
    ⟨0x751F, ["Sheng"]⟩, ⟨0x7528, ["Yong"]⟩, ⟨0x7530, ["Tian"]⟩, ⟨0x7535, ["Dian"]⟩,
    ⟨0x7537, ["Nan"]⟩, ⟨0x754C, ["Jie"]⟩, ⟨0x767D, ["Bai", "Bai"]⟩, ⟨0x7684, ["De"]⟩,
    ⟨0x76EE, ["Mu"]⟩, ⟨0x793E, ["She"]⟩, ⟨0x795E, ["Shen"]⟩, ⟨0x7A7A, ["Kong"]⟩, ⟨0x7C7B, ["Lei"]⟩,
    ⟨0x82B1, ["Hua"]⟩, ⟨0x82F1, ["Ying"]⟩, ⟨0x897F, ["Xi"]⟩, ⟨0x8A66, ["Shi"]⟩, ⟨0x8A9E, ["Yu"]⟩,
    ⟨0x8BD5, ["Shi"]⟩, ⟨0x8BED, ["Yu"]⟩, ⟨0x8D64, ["Chi"]⟩, ⟨0x8ECA, ["Che"]⟩, ⟨0x8F66, ["Che"]⟩,
    ⟨0x91D1, ["Jin"]⟩, ⟨0x9580, ["Men"]⟩, ⟨0x958B, ["Kai"]⟩, ⟨0x95E8, ["Men"]⟩, ⟨0x96E8, ["Yu"]⟩,
    ⟨0x96EA, ["Xue"]⟩, ⟨0x96FB, ["Dian"]⟩, ⟨0x9752, ["Qing"]⟩, ⟨0x98A8, ["Feng"]⟩,
    ⟨0x98CE, ["Feng"]⟩, ⟨0x9999, ["Xiang"]⟩, ⟨0x99AC, ["Ma"]⟩, ⟨0x9A6C, ["Ma"]⟩, ⟨0x9AD8, ["Gao"]⟩,
    ⟨0x9F8D, ["Long"]⟩, ⟨0x9F99, ["Long"]⟩, ⟨0xAD6D, ["Gug"]⟩, ⟨0xC5B4, ["Eo"]⟩, ⟨0xD55C, ["Han"]⟩,
    ⟨0xFB00, ["ff", "fi", "fl", "ffi", "ffl", "st", "st"]⟩,
    ⟨0xFF01, ["!", "\"", "#", "$", "%", "&", "'", "(", ")", "*", "+", ",", "-", ".", "/", "0", "1",
      "2", "3", "4", "5", "6", "7", "8", "9", ":", ";", "<", "=", ">", "?", "@", "A", "B", "C", "D",
      "E", "F", "G", "H", "I", "J", "K", "L", "M", "N", "O", "P", "Q", "R", "S", "T", "U", "V", "W",
      "X", "Y", "Z", "[", "\\", "]", "^", "_", "`", "a", "b", "c", "d", "e", "f", "g", "h", "i",
      "j", "k", "l", "m", "n", "o", "p", "q", "r", "s", "t", "u", "v", "w", "x", "y", "z", "\x7b",
      "|", "\x7d", "~"]⟩, ⟨0x1F334, [":palm_tree:"]⟩, ⟨0x1F389, [":tada:"]⟩, ⟨0x1F40D, [":snake:"]⟩,
    ⟨0x1F431, [":cat:"]⟩, ⟨0x1F436, [":dog:"]⟩, ⟨0x1F44B, [":wave:"]⟩, ⟨0x1F451, [":crown:"]⟩,
    ⟨0x1F525, [":fire:"]⟩, ⟨0x1F600, [":grinning:"]⟩, ⟨0x1F602, [":joy:"]⟩,
    ⟨0x1F60E, [":sunglasses:"]⟩, ⟨0x1F680, [":rocket:"]⟩, ⟨0x1F980, [":crab:"]⟩]

/-- The first letters of the syllables of Hangul. -/
def hangulInitials : List String :=
  ["g", "kk", "n", "d", "tt", "r", "m", "b", "pp", "s", "ss", "", "j", "jj", "ch", "k", "t", "p",
    "h"]

/-- The vowels of the syllables of Hangul. -/
def hangulVowels : List String :=
  ["a", "ae", "ya", "yae", "eo", "e", "yeo", "ye", "o", "wa", "wae", "oe", "yo", "u", "wo", "we",
    "wi", "yu", "eu", "ui", "i"]

/-- The last letters of the syllables of Hangul, of which there may be none. -/
def hangulFinals : List String :=
  ["", "g", "kk", "gs", "n", "nj", "nh", "d", "l", "lg", "lm", "lb", "ls", "lt", "lp", "lh", "m",
    "b", "bs", "s", "ss", "ng", "j", "ch", "k", "t", "p", "h"]

/-- The beginning of a syllable with a capital. -/
def syllableStart (initial vowel : String) : List Char :=
  match initial.toList ++ vowel.toList with
  | [] => []
  | c :: rest => c.toUpper :: rest

/-- The spelling of a syllable of Hangul. Its code point tells the first letter, the vowel and the
last letter. -/
def syllable? (code : Nat) : Option (List Char) :=
  if 0xAC00 ≤ code && code ≤ 0xD7A3 then
    let number := code - 0xAC00
    let final := hangulFinals.getD (number % 28) ""
    let vowel := hangulVowels.getD (number / 28 % 21) ""
    let initial := hangulInitials.getD (number / 588) ""
    some (syllableStart initial vowel ++ final.toList)
  else none

/-- The spelling of a letter or digit of another face. -/
def plain? (code : Nat) : Option (List Char) :=
  let letters := "ABCDEFGHIJKLMNOPQRSTUVWXYZabcdefghijklmnopqrstuvwxyz".toList
  let digits := "0123456789".toList
  if 0x1D400 ≤ code && code ≤ 0x1D6A3 then some [letters.getD ((code - 0x1D400) % 52) 'A']
  else if 0x1D7CE ≤ code && code ≤ 0x1D7FF then some [digits.getD ((code - 0x1D7CE) % 10) '0']
  else none

/-- The spelling of the character with a code point beyond ASCII; empty for one that has none. -/
def spelling (code : Nat) : List Char :=
  match rows.findSome? (·.spelling? code) with
  | some s => s.toList
  | none => ((syllable? code).or (plain? code)).getD []

/-! ## The spellings are ASCII -/

/-- An item of a list with the default for missing items is of the list or the default. -/
theorem getD_mem_cons (l : List α) (i : Nat) (d : α) : l.getD i d ∈ d :: l := by
  rw [List.getD_eq_getElem?_getD]
  cases h : l[i]? with
  | none => simp
  | some a => simp [List.mem_of_getElem? h]

theorem rows_all_isAscii :
    rows.all (fun row => row.spellings.all fun s => s.toList.all isAscii) = true := by
  decide +kernel

theorem hangulFinals_all_isAscii :
    ("" :: hangulFinals).all (fun s => s.toList.all isAscii) = true := by
  decide +kernel

theorem syllableStart_all_isAscii :
    ("" :: hangulInitials).all (fun initial => ("" :: hangulVowels).all fun vowel =>
      (syllableStart initial vowel).all isAscii) = true := by
  decide +kernel

/-- The spellings that are listed are ASCII. -/
theorem isAscii_of_mem_row {row : Row} (hrow : row ∈ rows) {code : Nat} {s : String}
    (hs : row.spelling? code = some s) {c : Char} (hc : c ∈ s.toList) : isAscii c = true := by
  have hmem : s ∈ row.spellings := by
    unfold Row.spelling? at hs
    split at hs
    · exact List.mem_of_getElem? hs
    · cases hs
  have hall := List.all_eq_true.1 rows_all_isAscii row hrow
  exact List.all_eq_true.1 (List.all_eq_true.1 hall s hmem) c hc

/-- The syllables of Hangul have ASCII spellings. -/
theorem isAscii_of_mem_syllable {code : Nat} {cs : List Char} (h : syllable? code = some cs)
    {c : Char} (hc : c ∈ cs) : isAscii c = true := by
  unfold syllable? at h
  split at h
  · cases h
    rcases List.mem_append.1 hc with hc | hc
    · exact List.all_eq_true.1 (List.all_eq_true.1 (List.all_eq_true.1 syllableStart_all_isAscii _
        (getD_mem_cons _ _ _)) _ (getD_mem_cons _ _ _)) c hc
    · exact List.all_eq_true.1
        (List.all_eq_true.1 hangulFinals_all_isAscii _ (getD_mem_cons _ _ _)) c hc
  · cases h

/-- The characters of other faces have ASCII spellings. -/
theorem isAscii_of_mem_plain {code : Nat} {cs : List Char} (h : plain? code = some cs)
    {c : Char} (hc : c ∈ cs) : isAscii c = true := by
  have hletters : ('A' :: "ABCDEFGHIJKLMNOPQRSTUVWXYZabcdefghijklmnopqrstuvwxyz".toList).all
      isAscii = true := by decide +kernel
  have hdigits : ('0' :: "0123456789".toList).all isAscii = true := by decide +kernel
  unfold plain? at h
  split at h
  · cases h
    rw [List.mem_singleton.1 hc]
    exact List.all_eq_true.1 hletters _ (getD_mem_cons _ _ _)
  · split at h
    · cases h
      rw [List.mem_singleton.1 hc]
      exact List.all_eq_true.1 hdigits _ (getD_mem_cons _ _ _)
    · cases h

/-- **Every spelling is ASCII.** -/
theorem isAscii_of_mem_spelling {code : Nat} {c : Char} (h : c ∈ spelling code) :
    isAscii c = true := by
  unfold spelling at h
  split at h
  · rename_i s hs
    obtain ⟨row, hrow, hrs⟩ := List.exists_of_findSome?_eq_some hs
    exact isAscii_of_mem_row hrow hrs h
  · cases hsyllable : syllable? code with
    | some cs => exact isAscii_of_mem_syllable hsyllable (by simpa [hsyllable] using h)
    | none =>
      cases hplain : plain? code with
      | some cs => exact isAscii_of_mem_plain hplain (by simpa [hsyllable, hplain] using h)
      | none => simp [hsyllable, hplain] at h

/-- The speller by the list. -/
instance listedSpeller : Speller where
  spell c := if isAscii c then [c] else spelling c.toNat
  isAscii_of_mem_spell {c d} h := by
    split at h
    · rename_i hc
      rw [List.mem_singleton.1 h]
      exact hc
    · exact isAscii_of_mem_spelling h
  spell_of_isAscii h := if_pos h

end ApiAnnotator.Text
