import Abridge.CharSet.Table

/-!
Ages of characters: the version of the Unicode standard, up to version 16, that each code point came
with. `age?` gives the characters that a version had.
-/
namespace Abridge.CharSet

/-- The versions in order, each by a letter. -/
def versions : List (Char × String) :=
  [('A', "1.1"), ('B', "2.0"), ('C', "2.1"), ('D', "3.0"), ('E', "3.1"), ('F', "3.2"),
   ('G', "4.0"), ('H', "4.1"), ('I', "5.0"), ('J', "5.1"), ('K', "5.2"), ('L', "6.0"),
   ('M', "6.1"), ('N', "6.2"), ('O', "6.3"), ('P', "7.0"), ('Q', "8.0"), ('R', "9.0"),
   ('S', "10.0"), ('T', "11.0"), ('U', "12.0"), ('V', "12.1"), ('W', "13.0"), ('X', "14.0"),
   ('Y', "15.0"), ('Z', "15.1"), ('a', "16.0")]

/-- The letter of the version that each code point came with. -/
def ageTable : String :=
  "A502 D4 A30 D8 F G D18 G3 H11 I14 A89 D5 G2 A47 D A10 D5 G17 A70 D9 F G8 H5 G3 A2 D F13 J4 A2
   J2 -2 A I3 A P -4 A7 - A - A20 - A44 J A7 D F2 A D A D A D A D A18 E2 F G5 H4 D A12 D A66 D A12
   D A41 J D2 F2 D4 A53 F2 A2 F2 A2 F2 I A28 D2 A8 H2 A2 I6 F16 I4 J16 K2 L2 P8 - A38 -2 A7 T A39
   T A D -2 P2 M - B17 H B13 A10 I A9 B H3 -8 A27 -4 T A5 -11 G4 M P J5 H A G9 J5 A O X H A L A26
   J5 A19 D3 G3 H6 L A14 F2 A72 D2 A5 D A15 D A30 G2 A10 D5 G D14 - D30 G3 D27 -2 G3 H30 J18 D49 F
   -14 I59 -2 T3 K46 -2 K15 - L28 -2 L - S11 -5 X31 - X2 -5 a X8 M P M11 P6 Q2 X R8 W10 X11 T R15
   Q M27 P K A3 G A53 L2 A18 K L A5 K L2 A25 J2 L5 P K2 I2 H I2 P A3 - A8 -2 A2 -2 A22 - A7 - A -3
   A4 -2 A G A7 -2 A2 -2 A3 H -8 A -4 A2 - A5 -2 A21 K S2 T -2 G A G - A6 -4 A2 -2 A22 - A7 - A2 -
   A2 - A2 -2 A - A5 -4 A2 -2 A3 -3 J -7 A4 - A -7 A15 J T -10 A3 - A7 G A - A3 - A22 - A7 - A2 -
   A5 -2 A10 - A3 - A3 -2 A -15 A G3 -2 A10 M G -7 Q S6 - A3 - A8 -2 A2 -2 A22 - A7 - A2 - G A4 -2
   A8 J -2 A2 -2 A3 -7 W A2 -4 A2 - A3 J2 -2 A11 G L6 -10 A2 - A6 -3 A3 - A4 -3 A2 - A - A2 -3 A2
   -3 A3 -3 A8 H A3 -4 A5 -3 A3 - A4 -2 J -6 A -14 H A12 G8 -5 P A3 T A8 - A3 - A23 - A10 P A5 -2
   X J A7 - A3 - A4 -7 A2 - J2 Q -2 X -2 A2 J2 -2 A10 -7 U J8 R P A2 T A8 - A3 - A23 - A10 - A5 -2
   G2 A7 - A3 - A4 -7 A2 -6 X A - A2 I2 -2 A10 - I2 Y -12 S P A2 W A8 - A3 - A23 L A16 L S2 J A6 J
   - A3 - A4 L R -4 R3 A R7 Q A2 J2 -2 A10 J6 R3 J7 - W D2 - D18 -3 D24 - D9 - D -2 D7 -3 D -4 D6
   - D - D8 -6 P10 -2 D3 -12 A58 -4 A29 -37 A2 - A - U A2 U A - U A U6 A4 U A7 U A3 - A - A U2 A2
   U A13 U A3 -2 A5 - A - A6 Y - A10 -2 A2 M2 -32 B72 - B33 D J2 -4 B27 L4 B6 D B - B21 D3 B7 D B
   D3 - D15 - J D H2 J3 K4 L2 -37 D34 J D5 J D2 J D7 J3 D4 J6 D26 J64 K4 J2 A38 - M -5 M -2 A39 F2
   H2 A H M3 A90 K5 A68 K5 A82 K6 D7 H D63 H D - D4 -2 D7 - D - D4 -2 D39 H D - D4 -2 D31 H D - D4
   -2 D7 - D - D4 -2 D7 H D7 - D23 H D31 H D - D4 -2 D7 H D39 H D19 -2 L2 H2 D28 -3 H26 -6 D85 Q
   -2 Q6 -2 K D630 K9 D29 -3 D81 P8 -7 F13 X F7 X -9 X F23 -9 F20 -12 F13 - F3 - F2 -12 D93 G -2
   D10 -6 G10 -6 D15 X D10 -6 D88 T -7 D42 J -5 K70 -10 G29 P2 - G12 -4 G12 -4 G -3 G42 -2 G5 -11
   H42 K2 -4 H26 -6 H10 K -3 H2 G32 H28 -2 H2 K63 - K29 -2 K11 -6 K10 -6 K14 -2 P15 W2 X14 -49 I76
   X - a2 I45 X2 a J43 M3 J12 M6 L52 -8 L4 J56 -3 J15 -3 J51 R9 a2 -5 T43 -2 T3 M8 -8 K35 M4 S P2
   U -5 G108 H88 I7 J28 P15 S4 X R L K I2 A155 B J4 A90 J6 A22 -2 A6 -2 A38 -2 A6 -2 A8 - A - A -
   A - A31 -2 A53 - A15 - A14 -2 A6 - A19 -2 A3 - A9 - A47 D A23 F D6 F5 G2 H2 F H7 F5 J - O4 A7 F
   -2 A27 - H5 L8 -3 A11 B C D3 F2 H4 K3 L N P3 Q S X -15 A18 D2 F7 H I4 J -15 A57 D2 G H F15 H I2
   J K3 A48 D I J4 K Q2 -4 A91 D9 F12 A242 F14 A D A121 D F D30 F52 G2 H11 I12 K L11 P7 R4 S A37
   D2 a3 -22 A11 -21 A139 F20 G A150 F10 A80 D8 F8 A20 G2 F2 H D A86 D2 F12 H2 F10 G8 H11 J K2 G2
   H16 I J10 K3 J4 K10 L K19 L K L4 K24 P A4 L A4 L2 A28 L A35 L A L A4 L3 A K A7 L2 A7 F14 A31 L3
   A24 L A14 L H7 I4 M J M L2 F28 J4 F16 D256 F512 G14 H6 I7 J5 I4 J41 P3 J5 K5 P26 -2 P32 - W P34
   T3 P12 U P8 S T25 Q4 T15 U H47 X H47 X I13 J3 K J3 I4 J6 K2 H107 K7 M2 -5 H45 - M -5 M -2 H54
   M2 -7 H L -14 L H23 -9 H7 - H7 - H7 - H7 - H7 - H7 - H7 - H7 - J32 H24 J4 H2 J19 K M10 P7 R2 S5
   T5 U W3 X11 -34 D26 - D89 -12 D214 -26 D12 Z4 A56 D3 F3 D A - A84 F2 -2 A6 F2 A94 F -5 A40 J S
   T - A94 - A16 D24 L3 W5 H16 J20 a2 -9 Z F16 A29 G2 - A36 K12 G F15 A28 G2 H A50 F15 A12 G4 A47
   V A119 G4 A99 G2 A31 G D6582 W10 G64 A20902 H22 J8 K8 M Q9 S21 T5 W13 X3 D1165 -3 D18 F2 D16 F
   D12 F D3 F D -9 K48 J300 -20 J32 L2 J18 M8 J28 P6 Q M K88 -8 H23 I4 J5 I2 J107 L2 Q L2 M2 P12
   L10 M P3 R T P2 Q6 T2 U6 X2 U5 W4 a3 -2 X2 - X - X5 a3 -21 X3 W2 P M2 L J5 H44 W -3 K10 -6 I56
   -8 J69 R -8 J12 -6 K28 Q2 T2 J84 -11 J K29 -3 K78 - K11 -4 K2 P31 - J55 -9 J14 -2 J10 -2 J4 K28
   P4 K67 -24 K5 M23 -10 L6 -2 L6 -2 L6 -9 L7 - L7 - P48 Q4 P2 U2 W4 -4 Q80 K46 -2 K10 -6 B11172
   -12 K23 -4 K49 -4 B2048 A6702 M2 F59 K3 -2 H106 -38 A7 -12 A5 -5 D A25 - A5 - A - A2 - A2 -
   A108 L16 X -16 A365 X16 A64 -2 A54 -7 X E32 A12 F G X2 F16 H10 -6 A4 J3 P7 Q2 A21 F2 G2 A10 -
   A19 - A4 -4 A3 F A - A135 -2 A - A94 F2 A94 -3 A6 -2 A6 -2 A6 -2 A3 -3 A7 - A7 -10 D3 C A3 G12
   - G26 - G19 - G2 - G15 -2 G14 -34 G123 -5 G3 -4 G45 -3 G9 H75 P2 R2 - J12 W -3 P -47 J46 -130
   J29 -3 J49 -15 P28 -4 E31 P E4 -9 S3 E27 -5 P43 -5 G30 - G H36 -4 H14 -42 E38 G2 E38 G80 -2 G10
   -6 R36 -4 R36 -4 P40 -8 P52 -11 P X11 - X15 - X7 - X2 - X11 - X15 - X7 - X2 -3 a52 -12 P311 -9
   P22 -10 P8 -24 X6 - X42 - X9 -69 G6 -2 G - G44 - G2 -3 G -2 G K22 - K9 P63 -8 P9 -48 Q19 - Q2
   -5 Q5 I26 K2 -3 I J26 -5 J -64 M56 -4 Q2 M2 Q16 -2 Q46 H4 - H2 -5 H8 - H3 - H27 T2 -2 H3 -4 H9
   T -7 H9 -7 K32 P32 -32 P39 -4 P12 -9 K54 -3 K29 -2 K27 -5 K8 P18 -7 P4 -12 P7 -80 K73 -55 Q51
   -13 Q51 -7 Q6 T40 -8 T10 -6 a38 -3 a29 -8 a2 -208 K31 - W42 - W3 -2 W2 -16 a3 -55 a Y3 T40 -8
   T42 -22 X26 -38 W28 -20 U23 -9 L78 -4 L30 X6 -9 P K66 X -10 T -2 M25 -7 M10 -6 M53 - M14 T3 W
   -8 P39 -9 M73 Q4 P W2 M10 P Q5 - P20 -11 P18 - P43 R Y3 -62 Q7 - Q - Q4 - Q15 - Q11 -6 P59 -5
   P10 -6 Q P3 - P8 -2 P2 -2 P22 - P7 - P2 - P5 - T P9 -2 P2 -2 P3 -2 Q -6 P -5 P7 -2 P7 -3 P5 -11
   a10 - a -2 a - a38 - a10 - a -2 a - a4 - a10 - a2 -8 a2 -29 R90 W R - R T U W2 -30 P72 -8 P10
   -166 P54 -2 P18 Q20 -34 P69 -11 P10 -6 R13 -19 M56 U X -6 M10 -6 a20 -28 Q26 T -2 Q15 -4 Q16 X7
   -185 T60 -100 P83 -12 P W7 -2 W -2 W8 - W2 - W30 - W2 -2 W12 -9 W10 -70 U8 -2 U46 -2 U11 -27
   S72 -8 S52 U2 S23 T S5 -13 X16 P57 -7 Y10 -182 a34 -14 a10 -6 R9 - R45 - R14 -10 R29 -3 R32 -2
   R22 - R14 -73 S7 - S2 - S44 -3 S - S2 - S9 -8 S10 -6 T6 - T2 - T37 - T2 - T6 -7 T10 -310 T25 -7
   Y17 - Y41 -3 Y28 a -85 W -15 U50 -13 U I879 P42 Q -102 I99 P12 - I4 P -11 Q196 -2636 X99 -13
   K1071 Y U9 Y29 -10 a3995 -5 Q583 -6841 a58 -1734 L569 -7 P31 - P10 -4 P2 X79 - X10 -6 P30 -2 P6
   -10 P70 -10 P10 - P7 - P21 -5 P19 -432 a58 -198 T91 -101 M69 U6 -4 U M47 U9 -7 M17 -64 R S U2 W
   -11 W2 -14 R6125 T5 U6 -8 R755 W483 -41 a W9 -8935 X4 - X7 - X2 - L2 S285 X4 -15 Y -29 U3 -2 Y
   -14 U4 -8 S396 -2308 P107 -5 P13 -3 P9 -7 P10 -2 P8 -3932 a250 -6 a436 -76 X46 -2 X23 -9 X116
   -60 E246 -10 E39 -2 J E180 Q11 X2 -21 H70 -122 Y20 -12 T20 -12 G87 -9 I18 T7 -135 E85 - E71 -
   E2 -2 E -2 E2 -2 E4 - E12 - E - E4 G E2 - E65 - E4 -2 E8 - E7 - E28 - E4 - E5 - E -3 E7 - E338
   H2 -2 E290 I2 -2 E50 Q652 -15 Q5 - Q15 -1104 X31 -6 Y6 -213 R7 - R17 -2 R7 - R2 - R5 -5 Y62 -33
   Y -112 U45 -3 U14 -2 U10 -4 U2 -320 X31 -17 U58 -5 U -464 Y42 -214 a43 -4 a -480 X7 - X4 - X2 -
   X15 - P197 -2 P16 -41 R75 U -4 R10 -4 R2 -785 T68 -76 U61 -194 M4 - M27 - M2 - M -2 M - M10 -
   M4 - M - M -6 M -4 M - M - M - M3 - M2 - M -2 M - M - M - M - M - M2 - M -2 M4 - M7 - M4 - M4 -
   M - M10 - M17 -5 M3 - M5 - M17 -52 M2 -270 J44 -4 J100 -12 L15 -2 L14 P - L15 - L15 P22 -10 K11
   P2 W3 K31 T L K L11 K L K L2 K L3 K L3 K5 L8 K L7 K L10 M2 U W3 L9 K L K2 L2 K L10 K4 L2 K L10
   R18 W -56 L26 K L2 -13 K34 L9 R -4 K9 -7 L2 -14 S6 -154 L33 P12 Q3 L6 P L70 P Q2 L20 P12 L37 P
   L5 P4 Q5 P12 L17 P7 Q8 L63 P L P L182 P L4 P2 Q L62 P2 M4 P7 Q5 L24 P18 R P41 R P86 L5 M L16 M
   L3 M L M L M L M L3 M L6 M2 L4 M L M2 L4 M L12 P2 Q2 L11 P48 L70 P10 Q R2 S2 U W2 -4 Y X3 P13
   -3 P4 R3 S2 T U W2 -3 L116 Y3 -4 Y5 P85 T4 Y -6 U12 -4 X -15 P12 -4 P56 -8 P10 -6 P40 -8 P30 -2
   W2 a10 -4 a2 -62 S12 W U3 Q9 R6 S R8 S8 R S2 R12 U R12 S T3 R15 S13 T5 U W T4 W2 X T U T4 Q5
   R13 S6 T11 W2 U6 W3 U2 T10 U6 Q T2 U8 W X U3 S23 T25 U84 -12 T14 -2 U4 W Y3 U3 X2 -3 U3 W4 Y2 a
   -5 a U6 W19 X4 Y3 W7 X4 Y3 a Y W3 X3 a -7 Y2 W7 X3 Y2 a -2 a X8 Y a -6 X7 Y2 -7 W147 - W55 a37
   W10 -1028 B2 E42711 W7 X2 -32 K4149 X4 Y -6 L222 -2 Q5762 -14 S7473 -15 Z622 -2466 E542 -1504
   B2 W4939 -5 Y4192 -56398 B2 -65534 B2 -65534 B2 -65534 B2 -65534 B2 -65534 B2 -65534 B2 -65534
   B2 -65534 B2 -65534 B2 -65534 B2 - E -30 E96 -128 G240 -65038 B131074"

/-- The two ways to write a version in plain form: with a point, or with a letter and no point. -/
def isVersion (version : String) (name : Text) : Bool :=
  name == version.toList || name == 'v' :: version.toList.filter (· != '.')

/-- The versions up to and with the one that a name in plain form stands for. -/
def versionsUpTo (name : Text) : List (Char × String) → Option (List Char)
  | [] => none
  | (letter, version) :: later =>
    if isVersion version name then some [letter]
    else (versionsUpTo name later).map (letter :: ·)

/-- The characters that a version had. -/
def age? (name : Text) : Option CharSet :=
  (versionsUpTo name versions).map fun letters =>
    select (fun code => code.all letters.contains) ageTable

end Abridge.CharSet
