import Abridge.CharSet.Named

/-!
The classes of characters that tell where graphemes, words and sentences end, after the Unicode
standard, version 16: `graphemeBreak?`, `wordBreak?` and `sentenceBreak?` give the characters of a
class by its name. What has none of the classes of a kind is in no set of that kind.
-/
namespace Abridge.CharSet

/-- The classes at the ends of graphemes. Hangul syllables come in blocks of 28, of which the first
ends in a vowel. -/
def graphemeClasses : List NamedSet := [
  { names := "CR"
    categories := ""
    exceptions :=
      "13 1" },
  { names := "LF"
    categories := ""
    exceptions :=
      "10 1" },
  { names := "Control CN"
    categories := "Cc Cf"
    exceptions :=
      "10 1 2 1 1522 6 215 1 49 1 384 2 80 1 5929 2 26 2 59 1 57226 9 4292 1 15 1 847666 1 1
       254 240 3600" },
  { names := "Extend EX"
    categories := "Mn Me"
    exceptions :=
      "2494 1 24 1 358 1 24 1 102 1 24 1 232 1 1 1 4 2 1 2 9 2 103 1 24 1 119 1 15 1 2357 1 30
       1 1024 1 5 1 1 1 5 2 101 1 71 2 1048 1 4129 2 31011 1 108 1 21981 2 4640 1 116 1 264 1
       14 1 9 1 96 1 9 1 2 1 1 3 5 1 224 1 12 1 241 1 262 1 633 1 12 1 1539 1 20654 2 24947 2 6
       6 8840 5 789536 96" },
  { names := "ZWJ"
    categories := ""
    exceptions :=
      "8205 1" },
  { names := "Regional_Indicator RI"
    categories := ""
    exceptions :=
      "127462 26" },
  { names := "Prepend PP"
    categories := ""
    exceptions :=
      "1536 6 215 1 49 1 384 2 80 1 1131 1 66414 1 15 1 244 2 525 1 1389 1 1 1 248 1 73 6 700 1
       443 1" },
  { names := "SpacingMark SM"
    categories := "Mc"
    exceptions :=
      "2494 1 24 1 358 1 24 1 102 1 24 1 232 1 1 1 4 2 1 2 9 2 103 1 24 1 119 1 15 1 83 1 127 1
       375 2 11 1 41 3 2 7 21 1 3 6 2 1 10 3 1656 1 30 1 812 1 1 2 208 1 5 1 1 1 5 2 101 1 71 2
       5178 2 31011 1 108 1 186 1 1 1 26434 1 116 1 264 1 14 1 9 1 96 1 9 1 2 1 1 3 5 1 224 1
       12 1 241 1 262 1 105 2 526 1 12 1 1539 1 20654 2 24947 2 6 6" },
  { names := "L"
    categories := ""
    exceptions :=
      "4352 96 38912 29" },
  { names := "V"
    categories := ""
    exceptions :=
      "4448 72 50696 23 38300 1 3 4" },
  { names := "T"
    categories := ""
    exceptions :=
      "4520 88 50635 49" },
  { names := "LV"
    categories := ""
    exceptions := "44032 1 " ++ String.join (List.replicate 398 "27 1 ") },
  { names := "LVT"
    categories := ""
    exceptions := "44033 27 " ++ String.join (List.replicate 398 "1 27 ") }]

/-- The classes at the ends of words. -/
def wordClasses : List NamedSet := [
  { names := "CR"
    categories := ""
    exceptions :=
      "13 1" },
  { names := "LF"
    categories := ""
    exceptions :=
      "10 1" },
  { names := "Newline NL"
    categories := "Zl Zp"
    exceptions :=
      "11 2 120 1" },
  { names := "Extend"
    categories := "Mn Mc Me"
    exceptions :=
      "8204 1 57233 2 62555 5 789536 96" },
  { names := "ZWJ"
    categories := ""
    exceptions :=
      "8205 1" },
  { names := "Format FO"
    categories := "Cf"
    exceptions :=
      "1536 6 215 1 49 1 384 2 80 1 5928 3 61615 1 15 1 847698 96" },
  { names := "Regional_Indicator RI"
    categories := ""
    exceptions :=
      "127462 26" },
  { names := "Katakana KA"
    categories := ""
    exceptions :=
      "12337 5 101 2 3 91 1 4 240 16 208 47 1 88 52238 56 45138 4 1 7 1 2 1 1 287 3 50 1 14 4" },
  { names := "Hebrew_Letter HL"
    categories := ""
    exceptions :=
      "1488 27 4 4 62762 1 1 10 1 13 1 5 1 1 1 2 1 2 1 10" },
  { names := "ALetter LE"
    categories := "Lu Ll Lt Lm Lo Nl"
    exceptions :=
      "706 4 12 6 6 2 5 7 1 1 1 17 602 3 1 1 43 1 69 27 4 5 283 1 1777 48 1 2 12 7 58 2 1 1 1 5
       1 24 1 1 1 10 1 2 9 1 2 5 1 1 21 4 288 43 20 1 16 6 4 4 3 1 3 2 7 3 4 13 12 1 1777 52 35
       1 4 1 371 30 2 5 11 44 4 26 86 53 82 1 2574 52 2844 2 25 9 7 5 2 3 6 86 6 3 1 90 1 4 240
       16 512 6592 64 20992 1800 15 9 2 103 2 597 5 1 10 10 5 97 23 3 1 3 50 1 1 3 2 2 5 2 1 1
       1 24 3 125 1 19876 366 2 106 67 1 1 10 1 13 1 5 1 1 1 2 1 2 1 10 1046 58 5984 27 37 7
       22713 6136 8 1238 41 10 8935 4 1 7 1 2 1 291 15 1 29 3 2 1 14 4 8 396 15924 26 6 26 6 26
       3702 42720 32 4154 6 222 2 5762 14 7473 15 622 2466 542 1506 4939 5 4192" },
  { names := "Single_Quote SQ"
    categories := ""
    exceptions :=
      "39 1" },
  { names := "Double_Quote DQ"
    categories := ""
    exceptions :=
      "34 1" },
  { names := "MidNumLet MB"
    categories := ""
    exceptions :=
      "46 1 8169 2 10 1 56877 1 180 1 6 1" },
  { names := "MidLetter ML"
    categories := ""
    exceptions :=
      "58 1 124 1 719 1 471 1 148 1 6706 1 56811 1 65 1 196 1" },
  { names := "MidNum MN"
    categories := ""
    exceptions :=
      "44 1 14 1 834 1 522 1 130 2 94 1 395 1 6219 1 56779 1 3 1 59 1 3 1 183 1 14 1" },
  { names := "Numeric NU"
    categories := "Nd"
    exceptions :=
      "1536 6 101 1 113 1 434 2 80 1 67546 1 15 1" },
  { names := "ExtendNumLet EX"
    categories := "Pc"
    exceptions :=
      "8239 1" },
  { names := "WSegSpace"
    categories := "Zs"
    exceptions :=
      "160 1 8038 1 39 1" }]

/-- The classes at the ends of sentences. -/
def sentenceClasses : List NamedSet := [
  { names := "CR"
    categories := ""
    exceptions :=
      "13 1" },
  { names := "LF"
    categories := ""
    exceptions :=
      "10 1" },
  { names := "Extend EX"
    categories := "Mn Mc Me"
    exceptions :=
      "8204 2 57232 2 852096 96" },
  { names := "Sep SE"
    categories := "Zl Zp"
    exceptions :=
      "133 1" },
  { names := "Format FO"
    categories := "Cf"
    exceptions :=
      "1536 6 215 1 434 2 80 1 5929 2 61615 1 15 1 847698 96" },
  { names := "Sp SP"
    categories := "Zs"
    exceptions :=
      "9 1 1 2" },
  { names := "Lower LO"
    categories := "Ll"
    exceptions :=
      "170 1 15 1 501 9 7 2 30 5 149 1 3413 43 1 4 3116 63 13 1 34 37 689 1 13 1 16 13 211 16
       848 26 1938 2 31262 2 210 1 129 3 3 2 866 4 9 1 23574 1 2 3 1 42 1 9 55413 62" },
  { names := "Upper UP"
    categories := "Lu Lt"
    exceptions :=
      "7312 43 2 3 1184 16 838 26 117856 26 6 26 6 26" },
  { names := "OLetter LE"
    categories := "Lm Lo Nl"
    exceptions :=
      "170 1 15 1 501 9 7 2 30 5 149 1 632 1 2780 43 1 4 2960 43 2 3 108 63 13 1 34 37 689 1 13
       1 16 13 195 32 2812 2 31262 2 210 1 129 3 3 2 866 4 9 1 21556 2 2016 1 2 3 1 42 1 9
       55413 62" },
  { names := "Numeric NU"
    categories := "Nd"
    exceptions :=
      "1536 6 101 2 112 1 434 2 80 1 67546 1 15 1" },
  { names := "ATerm AT"
    categories := ""
    exceptions :=
      "46 1 8181 1 56877 1 187 1" },
  { names := "SContinue SC"
    categories := ""
    exceptions :=
      "44 2 12 2 834 1 478 1 174 2 490 1 4105 1 5 1 2058 2 4076 1 52750 2 1 2 28 2 29 2 2 2 2 1
       10 1 168 2 12 2 72 1" },
  { names := "STerm ST"
    categories := ""
    exceptions :=
      "33 1 29 1 1353 1 147 3 180 1 43 3 246 1 61 1 1 1 3 2 293 2 1764 2 790 1 4 2 773 1 198 2
       157 2 45 1 5 1 314 2 354 4 162 2 10 2 2 2 29 3 187 2 65 2 956 2 9 3 3247 3 306 1 13 1 22
       2 429 1 29948 1 270 2 227 1 3 1 382 2 86 2 95 1 152 2 147 3 144 2 249 1 21030 1 2 2 63 2
       169 1 29 1 65 1 2804 2 1277 5 44 4 189 2 117 4 127 3 129 2 6 1 16 2 88 2 1 2 108 1 298 2
       117 2 373 2 5 15 105 2 249 3 517 1 1 1 251 2 87 2 420 2 692 2 74 2 19241 2 133 1 65 2 11
       1 553 2 296 1 19974 1 7656 1" },
  { names := "Close CL"
    categories := "Ps Pe Pi Pf"
    exceptions :=
      "34 1 4 1 10035 6 1695 2 4 3 2 1 116842 3" }]

/-- The characters of a class at the ends of graphemes. -/
def graphemeBreak? (name : Text) : Option CharSet :=
  NamedSet.find? graphemeClasses name

/-- The characters of a class at the ends of words. -/
def wordBreak? (name : Text) : Option CharSet :=
  NamedSet.find? wordClasses name

/-- The characters of a class at the ends of sentences. -/
def sentenceBreak? (name : Text) : Option CharSet :=
  NamedSet.find? sentenceClasses name

end Abridge.CharSet
