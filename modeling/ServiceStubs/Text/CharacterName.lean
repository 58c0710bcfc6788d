/-!
# Names of characters

A literal may give a character by its Unicode name. All characters of Unicode 14 that have a name
are known by it and by its formal aliases. Most names stand in a table; those of the ideographs and
of the Hangul syllables follow from their numbers.

Names in the table are read without regard to case, the others must be in capitals.

## Main definitions

* `Text.characterNamed?`: the character of a name
-/

namespace ServiceStubs

namespace Text

/-! ## Names that follow from numbers -/

/-- The first and the last number of each range of unified ideographs. -/
def ideographRanges : List (Nat × Nat) :=
  [(0x3400, 0x4dbf), (0x4e00, 0x9fff), (0x20000, 0x2a6df), (0x2a700, 0x2b738), (0x2b740, 0x2b81d),
    (0x2b820, 0x2cea1), (0x2ceb0, 0x2ebe0), (0x30000, 0x3134a)]

/-- The names of the consonants that a syllable may start with, of its vowel, and of the consonants
that it may end with. -/
def syllableParts : List (List String) :=
  [["G", "GG", "N", "D", "DD", "R", "M", "B", "BB", "S", "SS", "", "J", "JJ", "C", "K", "T", "P", "H"],
    ["A", "AE", "YA", "YAE", "EO", "E", "YEO", "YE", "O", "WA", "WAE", "OE", "YO", "U", "WEO", "WE",
      "WI", "YU", "EU", "YI", "I"],
    ["", "G", "GG", "GS", "N", "NJ", "NH", "D", "L", "LG", "LM", "LB", "LS", "LT", "LP", "LH", "M",
      "B", "BS", "S", "SS", "NG", "J", "C", "K", "T", "P", "H"]]

/-- What follows a beginning of a name. -/
def behind? (beginning : String) (name : List Char) : Option (List Char) :=
  if beginning.toList.isPrefixOf name then some (name.drop beginning.length) else none

/-- The number of the longest part that a name starts with, and what follows it. -/
def longestPart? (parts : List String) (name : List Char) : Option (Nat × List Char) :=
  let fitting := parts.zipIdx.filter fun p => p.1.toList.isPrefixOf name
  (fitting.foldl (fun best p => if best.elim true fun b => b.1.length < p.1.length then some p else best)
    none).map fun p => (p.2, name.drop p.1.length)

/-- The number of an ideograph of a name: four or five hexadecimal digits. -/
def ideographNumber? (name : List Char) : Option Nat :=
  match behind? "CJK UNIFIED IDEOGRAPH-" name with
  | none => none
  | some digits =>
    let n := digits.foldl (fun n c => n * 16 + digitOf c) 0
    if (digits.length == 4 || digits.length == 5) && digits.all isDigit &&
        ideographRanges.any fun r => r.1 ≤ n && n ≤ r.2 then some n else none
where
  /-- A hexadecimal digit in capitals. -/
  isDigit (c : Char) : Bool := c.isDigit || ('A' ≤ c && c ≤ 'F')
  /-- The value of a digit. -/
  digitOf (c : Char) : Nat := if c.isDigit then c.toNat - '0'.toNat else c.toNat - 'A'.toNat + 10

/-- The number of a syllable of a name: its parts in a row. -/
def syllableNumber? (name : List Char) : Option Nat := do
  let rest ← behind? "HANGUL SYLLABLE " name
  match syllableParts with
  | [leads, vowels, tails] =>
    let (lead, rest) ← longestPart? leads rest
    let (vowel, rest) ← longestPart? vowels rest
    let (tail, rest) ← longestPart? tails rest
    if rest.isEmpty then some (0xac00 + (lead * 21 + vowel) * 28 + tail) else none
  | _ => none

/-! ## The table -/

/-- The names by number, those of a number one behind the other. An entry tells how far its number
is from the one before it, in hexadecimal digits unless that is one; then, in small letters, how
many characters of the name before it the name starts with; then the rest of the name. -/
def nameTable : String :=
  "0aNUL;0dL;aSOH;0bTART OF HEADING;jTEXT;0cX;aEND OF TEXT;0bTX;bND OF TRANSMISSION;0bOT;bNQ;0dUIRY
aACK;0dNOWLEDGE;bLERT;0aBEL;bACKSPACE;0bS;aCHARACTER TABULATION;0aHORIZONTAL TABULATION;0bT;0aTAB
aEND OF LINE;0bOL;0aLF;0bINE FEED;0aNEW LINE;0bL;aLINE TABULATION;0aVERTICAL TABULATION;0bT;aFF
0bORM FEED;aCARRIAGE RETURN;0bR;aLOCKING-SHIFT ONE;0aSHIFT OUT;0bO;aLOCKING-SHIFT ZERO;0aSHIFT IN
0bI;aDATA LINK ESCAPE;0bLE;bC1;0bEVICE CONTROL ONE;bC2;0bEVICE CONTROL TWO;bC3
0bEVICE CONTROL THREE;bC4;0bEVICE CONTROL FOUR;aNAK;0bEGATIVE ACKNOWLEDGE;aSYN;0dCHRONOUS IDLE
aEND OF TRANSMISSION BLOCK;0bTB;aCAN;0dCEL;aEND OF MEDIUM;0bOM;aSUB;0dSTITUTE;aESC;0dAPE
aFILE SEPARATOR;0bS;0aINFORMATION SEPARATOR FOUR;aGROUP SEPARATOR;0bS;0aINFORMATION SEPARATOR THREE
xWO;0aRECORD SEPARATOR;0bS;aINFORMATION SEPARATOR ONE;0aUNIT SEPARATOR;0bS;aSP;0cACE
aEXCLAMATION MARK;aQUOTATION MARK;aNUMBER SIGN;aDOLLAR SIGN;aPERCENT SIGN;aAMPERSAND;bPOSTROPHE
aLEFT PARENTHESIS;aRIGHT PARENTHESIS;aASTERISK;aPLUS SIGN;aCOMMA;aHYPHEN-MINUS;aFULL STOP;aSOLIDUS
aDIGIT ZERO;gONE;gTWO;hHREE;gFOUR;hIVE;gSIX;hEVEN;gEIGHT;gNINE;aCOLON;aSEMICOLON;aLESS-THAN SIGN
aEQUALS SIGN;aGREATER-THAN SIGN;aQUESTION MARK;aCOMMERCIAL AT;aLATIN CAPITAL LETTER A;vB;vC;vD;vE
vF;vG;vH;vI;vJ;vK;vL;vM;vN;vO;vP;vQ;vR;vS;vT;vU;vV;vW;vX;vY;vZ;bEFT SQUARE BRACKET;aREVERSE SOLIDUS
bIGHT SQUARE BRACKET;aCIRCUMFLEX ACCENT;aLOW LINE;aGRAVE ACCENT;aLATIN SMALL LETTER A;tB;tC;tD;tE
tF;tG;tH;tI;tJ;tK;tL;tM;tN;tO;tP;tQ;tR;tS;tT;tU;tV;tW;tX;tY;tZ;bEFT CURLY BRACKET;aVERTICAL LINE
aRIGHT CURLY BRACKET;aTILDE;aDEL;0dETE;aPAD;0dDING CHARACTER;aHIGH OCTET PRESET;0bOP;aBPH
0bREAK PERMITTED HERE;aNBH;0bO BREAK HERE;aIND;0dEX;aNEL;0cXT LINE;aSSA;0bTART OF SELECTED AREA
aEND OF SELECTED AREA;0bSA;aCHARACTER TABULATION SET;0aHORIZONTAL TABULATION SET;0bTS
aCHARACTER TABULATION WITH JUSTIFICATION;0aHORIZONTAL TABULATION WITH JUSTIFICATION;0bTJ
aLINE TABULATION SET;0aVERTICAL TABULATION SET;0bTS;aPARTIAL LINE DOWN;0nFORWARD;0bLD
bARTIAL LINE BACKWARD;0nUP;0bLU;aREVERSE INDEX;0iLINE FEED;0bI;aSINGLE SHIFT TWO;0g-SHIFT-2;0bS2
bINGLE SHIFT THREE;0g-SHIFT-3;0bS3;aDCS;0bEVICE CONTROL STRING;aPRIVATE USE ONE;0l-1;0bU1
bRIVATE USE TWO;0l-2;0bU2;aSET TRANSMIT STATE;0bTS;aCANCEL CHARACTER;0bCH;aMESSAGE WAITING;0bW;aSPA
0bTART OF GUARDED AREA;0jPROTECTED AREA;aEND OF GUARDED AREA;0hPROTECTED AREA;0bPA;aSOS
0bTART OF STRING;bGC;0bINGLE GRAPHIC CHARACTER INTRODUCER;bCI;0bINGLE CHARACTER INTRODUCER
aCONTROL SEQUENCE INTRODUCER;0bSI;aST;0cRING TERMINATOR;aOPERATING SYSTEM COMMAND;0bSC;aPM
0bRIVACY MESSAGE;aAPC;0cPLICATION PROGRAM COMMAND;aNBSP;0bO-BREAK SPACE;aINVERTED EXCLAMATION MARK
aCENT SIGN;aPOUND SIGN;aCURRENCY SIGN;aYEN SIGN;aBROKEN BAR;aSECTION SIGN;aDIAERESIS
aCOPYRIGHT SIGN;aFEMININE ORDINAL INDICATOR;aLEFT-POINTING DOUBLE ANGLE QUOTATION MARK;aNOT SIGN
aSHY;0bOFT HYPHEN;aREGISTERED SIGN;aMACRON;aDEGREE SIGN;aPLUS-MINUS SIGN;aSUPERSCRIPT TWO;nHREE
aACUTE ACCENT;aMICRO SIGN;aPILCROW SIGN;aMIDDLE DOT;aCEDILLA;aSUPERSCRIPT ONE
aMASCULINE ORDINAL INDICATOR;aRIGHT-POINTING DOUBLE ANGLE QUOTATION MARK
aVULGAR FRACTION ONE QUARTER;uHALF;qTHREE QUARTERS;aINVERTED QUESTION MARK
aLATIN CAPITAL LETTER A WITH GRAVE;zdACUTE;zdCIRCUMFLEX;zdTILDE;zdDIAERESIS;zdRING ABOVE;wE
vC WITH CEDILLA;vE WITH GRAVE;zdACUTE;zdCIRCUMFLEX;zdDIAERESIS;vI WITH GRAVE;zdACUTE;zdCIRCUMFLEX
zdDIAERESIS;vETH;vN WITH TILDE;vO WITH GRAVE;zdACUTE;zdCIRCUMFLEX;zdTILDE;zdDIAERESIS
aMULTIPLICATION SIGN;aLATIN CAPITAL LETTER O WITH STROKE;vU WITH GRAVE;zdACUTE;zdCIRCUMFLEX
zdDIAERESIS;vY WITH ACUTE;vTHORN;gSMALL LETTER SHARP S;tA WITH GRAVE;zbACUTE;zbCIRCUMFLEX;zbTILDE
zbDIAERESIS;zbRING ABOVE;uE;tC WITH CEDILLA;tE WITH GRAVE;zbACUTE;zbCIRCUMFLEX;zbDIAERESIS
tI WITH GRAVE;zbACUTE;zbCIRCUMFLEX;zbDIAERESIS;tETH;tN WITH TILDE;tO WITH GRAVE;zbACUTE
zbCIRCUMFLEX;zbTILDE;zbDIAERESIS;aDIVISION SIGN;aLATIN SMALL LETTER O WITH STROKE;tU WITH GRAVE
zbACUTE;zbCIRCUMFLEX;zbDIAERESIS;tY WITH ACUTE;tTHORN;tY WITH DIAERESIS
gCAPITAL LETTER A WITH MACRON;gSMALL LETTER A WITH MACRON;gCAPITAL LETTER A WITH BREVE
gSMALL LETTER A WITH BREVE;gCAPITAL LETTER A WITH OGONEK;gSMALL LETTER A WITH OGONEK
gCAPITAL LETTER C WITH ACUTE;gSMALL LETTER C WITH ACUTE;gCAPITAL LETTER C WITH CIRCUMFLEX
gSMALL LETTER C WITH CIRCUMFLEX;gCAPITAL LETTER C WITH DOT ABOVE;gSMALL LETTER C WITH DOT ABOVE
gCAPITAL LETTER C WITH CARON;gSMALL LETTER C WITH CARON;gCAPITAL LETTER D WITH CARON
gSMALL LETTER D WITH CARON;gCAPITAL LETTER D WITH STROKE;gSMALL LETTER D WITH STROKE
gCAPITAL LETTER E WITH MACRON;gSMALL LETTER E WITH MACRON;gCAPITAL LETTER E WITH BREVE
gSMALL LETTER E WITH BREVE;gCAPITAL LETTER E WITH DOT ABOVE;gSMALL LETTER E WITH DOT ABOVE
gCAPITAL LETTER E WITH OGONEK;gSMALL LETTER E WITH OGONEK;gCAPITAL LETTER E WITH CARON
gSMALL LETTER E WITH CARON;gCAPITAL LETTER G WITH CIRCUMFLEX;gSMALL LETTER G WITH CIRCUMFLEX
gCAPITAL LETTER G WITH BREVE;gSMALL LETTER G WITH BREVE;gCAPITAL LETTER G WITH DOT ABOVE
gSMALL LETTER G WITH DOT ABOVE;gCAPITAL LETTER G WITH CEDILLA;gSMALL LETTER G WITH CEDILLA
gCAPITAL LETTER H WITH CIRCUMFLEX;gSMALL LETTER H WITH CIRCUMFLEX;gCAPITAL LETTER H WITH STROKE
gSMALL LETTER H WITH STROKE;gCAPITAL LETTER I WITH TILDE;gSMALL LETTER I WITH TILDE
gCAPITAL LETTER I WITH MACRON;gSMALL LETTER I WITH MACRON;gCAPITAL LETTER I WITH BREVE
gSMALL LETTER I WITH BREVE;gCAPITAL LETTER I WITH OGONEK;gSMALL LETTER I WITH OGONEK
gCAPITAL LETTER I WITH DOT ABOVE;gSMALL LETTER DOTLESS I;gCAPITAL LIGATURE IJ;gSMALL LIGATURE IJ
gCAPITAL LETTER J WITH CIRCUMFLEX;gSMALL LETTER J WITH CIRCUMFLEX;gCAPITAL LETTER K WITH CEDILLA
gSMALL LETTER K WITH CEDILLA;uRA;gCAPITAL LETTER L WITH ACUTE;gSMALL LETTER L WITH ACUTE
gCAPITAL LETTER L WITH CEDILLA;gSMALL LETTER L WITH CEDILLA;gCAPITAL LETTER L WITH CARON
gSMALL LETTER L WITH CARON;gCAPITAL LETTER L WITH MIDDLE DOT;gSMALL LETTER L WITH MIDDLE DOT
gCAPITAL LETTER L WITH STROKE;gSMALL LETTER L WITH STROKE;gCAPITAL LETTER N WITH ACUTE
gSMALL LETTER N WITH ACUTE;gCAPITAL LETTER N WITH CEDILLA;gSMALL LETTER N WITH CEDILLA
gCAPITAL LETTER N WITH CARON;gSMALL LETTER N WITH CARON;vPRECEDED BY APOSTROPHE;gCAPITAL LETTER ENG
gSMALL LETTER ENG;gCAPITAL LETTER O WITH MACRON;gSMALL LETTER O WITH MACRON
gCAPITAL LETTER O WITH BREVE;gSMALL LETTER O WITH BREVE;gCAPITAL LETTER O WITH DOUBLE ACUTE
gSMALL LETTER O WITH DOUBLE ACUTE;gCAPITAL LIGATURE OE;gSMALL LIGATURE OE
gCAPITAL LETTER R WITH ACUTE;gSMALL LETTER R WITH ACUTE;gCAPITAL LETTER R WITH CEDILLA
gSMALL LETTER R WITH CEDILLA;gCAPITAL LETTER R WITH CARON;gSMALL LETTER R WITH CARON
gCAPITAL LETTER S WITH ACUTE;gSMALL LETTER S WITH ACUTE;gCAPITAL LETTER S WITH CIRCUMFLEX
gSMALL LETTER S WITH CIRCUMFLEX;gCAPITAL LETTER S WITH CEDILLA;gSMALL LETTER S WITH CEDILLA
gCAPITAL LETTER S WITH CARON;gSMALL LETTER S WITH CARON;gCAPITAL LETTER T WITH CEDILLA
gSMALL LETTER T WITH CEDILLA;gCAPITAL LETTER T WITH CARON;gSMALL LETTER T WITH CARON
gCAPITAL LETTER T WITH STROKE;gSMALL LETTER T WITH STROKE;gCAPITAL LETTER U WITH TILDE
gSMALL LETTER U WITH TILDE;gCAPITAL LETTER U WITH MACRON;gSMALL LETTER U WITH MACRON
gCAPITAL LETTER U WITH BREVE;gSMALL LETTER U WITH BREVE;gCAPITAL LETTER U WITH RING ABOVE
gSMALL LETTER U WITH RING ABOVE;gCAPITAL LETTER U WITH DOUBLE ACUTE
gSMALL LETTER U WITH DOUBLE ACUTE;gCAPITAL LETTER U WITH OGONEK;gSMALL LETTER U WITH OGONEK
gCAPITAL LETTER W WITH CIRCUMFLEX;gSMALL LETTER W WITH CIRCUMFLEX;gCAPITAL LETTER Y WITH CIRCUMFLEX
gSMALL LETTER Y WITH CIRCUMFLEX;gCAPITAL LETTER Y WITH DIAERESIS;vZ WITH ACUTE
gSMALL LETTER Z WITH ACUTE;gCAPITAL LETTER Z WITH DOT ABOVE;gSMALL LETTER Z WITH DOT ABOVE
gCAPITAL LETTER Z WITH CARON;gSMALL LETTER Z WITH CARON;tLONG S;tB WITH STROKE
gCAPITAL LETTER B WITH HOOK;zdTOPBAR;gSMALL LETTER B WITH TOPBAR;gCAPITAL LETTER TONE SIX
gSMALL LETTER TONE SIX;gCAPITAL LETTER OPEN O;vC WITH HOOK;gSMALL LETTER C WITH HOOK
gCAPITAL LETTER AFRICAN D;vD WITH HOOK;zdTOPBAR;gSMALL LETTER D WITH TOPBAR;tTURNED DELTA
gCAPITAL LETTER REVERSED E;vSCHWA;vOPEN E;vF WITH HOOK;gSMALL LETTER F WITH HOOK
gCAPITAL LETTER G WITH HOOK;wAMMA;gSMALL LETTER HV;gCAPITAL LETTER IOTA;w WITH STROKE;vK WITH HOOK
gSMALL LETTER K WITH HOOK;tL WITH BAR;uAMBDA WITH STROKE;gCAPITAL LETTER TURNED M;vN WITH LEFT HOOK
gSMALL LETTER N WITH LONG RIGHT LEG;gCAPITAL LETTER O WITH MIDDLE TILDE;zdHORN
gSMALL LETTER O WITH HORN;gCAPITAL LETTER GHA;0vOI;gSMALL LETTER GHA;0tOI
gCAPITAL LETTER P WITH HOOK;gSMALL LETTER P WITH HOOK;gLETTER YR;gCAPITAL LETTER TONE TWO
gSMALL LETTER TONE TWO;gCAPITAL LETTER ESH;gLETTER REVERSED ESH LOOP
gSMALL LETTER T WITH PALATAL HOOK;gCAPITAL LETTER T WITH HOOK;gSMALL LETTER T WITH HOOK
gCAPITAL LETTER T WITH RETROFLEX HOOK;vU WITH HORN;gSMALL LETTER U WITH HORN
gCAPITAL LETTER UPSILON;vV WITH HOOK;vY WITH HOOK;gSMALL LETTER Y WITH HOOK
gCAPITAL LETTER Z WITH STROKE;gSMALL LETTER Z WITH STROKE;gCAPITAL LETTER EZH;y REVERSED
gSMALL LETTER EZH REVERSED;xWITH TAIL;gLETTER TWO WITH STROKE;gCAPITAL LETTER TONE FIVE
gSMALL LETTER TONE FIVE;gLETTER INVERTED GLOTTAL STOP WITH STROKE;nWYNN;nDENTAL CLICK
nLATERAL CLICK;nALVEOLAR CLICK;nRETROFLEX CLICK;gCAPITAL LETTER DZ WITH CARON
w WITH SMALL LETTER Z WITH CARON;gSMALL LETTER DZ WITH CARON;gCAPITAL LETTER LJ
w WITH SMALL LETTER J;gSMALL LETTER LJ;gCAPITAL LETTER NJ;w WITH SMALL LETTER J;gSMALL LETTER NJ
gCAPITAL LETTER A WITH CARON;gSMALL LETTER A WITH CARON;gCAPITAL LETTER I WITH CARON
gSMALL LETTER I WITH CARON;gCAPITAL LETTER O WITH CARON;gSMALL LETTER O WITH CARON
gCAPITAL LETTER U WITH CARON;gSMALL LETTER U WITH CARON;gCAPITAL LETTER U WITH DIAERESIS AND MACRON
gSMALL LETTER U WITH DIAERESIS AND MACRON;gCAPITAL LETTER U WITH DIAERESIS AND ACUTE
gSMALL LETTER U WITH DIAERESIS AND ACUTE;gCAPITAL LETTER U WITH DIAERESIS AND CARON
gSMALL LETTER U WITH DIAERESIS AND CARON;gCAPITAL LETTER U WITH DIAERESIS AND GRAVE
gSMALL LETTER U WITH DIAERESIS AND GRAVE;tTURNED E;gCAPITAL LETTER A WITH DIAERESIS AND MACRON
gSMALL LETTER A WITH DIAERESIS AND MACRON;gCAPITAL LETTER A WITH DOT ABOVE AND MACRON
gSMALL LETTER A WITH DOT ABOVE AND MACRON;gCAPITAL LETTER AE WITH MACRON
gSMALL LETTER AE WITH MACRON;gCAPITAL LETTER G WITH STROKE;gSMALL LETTER G WITH STROKE
gCAPITAL LETTER G WITH CARON;gSMALL LETTER G WITH CARON;gCAPITAL LETTER K WITH CARON
gSMALL LETTER K WITH CARON;gCAPITAL LETTER O WITH OGONEK;gSMALL LETTER O WITH OGONEK
gCAPITAL LETTER O WITH OGONEK AND MACRON;gSMALL LETTER O WITH OGONEK AND MACRON
gCAPITAL LETTER EZH WITH CARON;gSMALL LETTER EZH WITH CARON;tJ WITH CARON;gCAPITAL LETTER DZ
w WITH SMALL LETTER Z;gSMALL LETTER DZ;gCAPITAL LETTER G WITH ACUTE;gSMALL LETTER G WITH ACUTE
gCAPITAL LETTER HWAIR;vWYNN;vN WITH GRAVE;gSMALL LETTER N WITH GRAVE
gCAPITAL LETTER A WITH RING ABOVE AND ACUTE;gSMALL LETTER A WITH RING ABOVE AND ACUTE
gCAPITAL LETTER AE WITH ACUTE;gSMALL LETTER AE WITH ACUTE;gCAPITAL LETTER O WITH STROKE AND ACUTE
gSMALL LETTER O WITH STROKE AND ACUTE;gCAPITAL LETTER A WITH DOUBLE GRAVE
gSMALL LETTER A WITH DOUBLE GRAVE;gCAPITAL LETTER A WITH INVERTED BREVE
gSMALL LETTER A WITH INVERTED BREVE;gCAPITAL LETTER E WITH DOUBLE GRAVE
gSMALL LETTER E WITH DOUBLE GRAVE;gCAPITAL LETTER E WITH INVERTED BREVE
gSMALL LETTER E WITH INVERTED BREVE;gCAPITAL LETTER I WITH DOUBLE GRAVE
gSMALL LETTER I WITH DOUBLE GRAVE;gCAPITAL LETTER I WITH INVERTED BREVE
gSMALL LETTER I WITH INVERTED BREVE;gCAPITAL LETTER O WITH DOUBLE GRAVE
gSMALL LETTER O WITH DOUBLE GRAVE;gCAPITAL LETTER O WITH INVERTED BREVE
gSMALL LETTER O WITH INVERTED BREVE;gCAPITAL LETTER R WITH DOUBLE GRAVE
gSMALL LETTER R WITH DOUBLE GRAVE;gCAPITAL LETTER R WITH INVERTED BREVE
gSMALL LETTER R WITH INVERTED BREVE;gCAPITAL LETTER U WITH DOUBLE GRAVE
gSMALL LETTER U WITH DOUBLE GRAVE;gCAPITAL LETTER U WITH INVERTED BREVE
gSMALL LETTER U WITH INVERTED BREVE;gCAPITAL LETTER S WITH COMMA BELOW
gSMALL LETTER S WITH COMMA BELOW;gCAPITAL LETTER T WITH COMMA BELOW
gSMALL LETTER T WITH COMMA BELOW;gCAPITAL LETTER YOGH;gSMALL LETTER YOGH
gCAPITAL LETTER H WITH CARON;gSMALL LETTER H WITH CARON;gCAPITAL LETTER N WITH LONG RIGHT LEG
gSMALL LETTER D WITH CURL;gCAPITAL LETTER OU;gSMALL LETTER OU;gCAPITAL LETTER Z WITH HOOK
gSMALL LETTER Z WITH HOOK;gCAPITAL LETTER A WITH DOT ABOVE;gSMALL LETTER A WITH DOT ABOVE
gCAPITAL LETTER E WITH CEDILLA;gSMALL LETTER E WITH CEDILLA
gCAPITAL LETTER O WITH DIAERESIS AND MACRON;gSMALL LETTER O WITH DIAERESIS AND MACRON
gCAPITAL LETTER O WITH TILDE AND MACRON;gSMALL LETTER O WITH TILDE AND MACRON
gCAPITAL LETTER O WITH DOT ABOVE;gSMALL LETTER O WITH DOT ABOVE
gCAPITAL LETTER O WITH DOT ABOVE AND MACRON;gSMALL LETTER O WITH DOT ABOVE AND MACRON
gCAPITAL LETTER Y WITH MACRON;gSMALL LETTER Y WITH MACRON;tL WITH CURL;tN WITH CURL;tT WITH CURL
tDOTLESS J;uB DIGRAPH;tQP DIGRAPH;gCAPITAL LETTER A WITH STROKE;vC WITH STROKE
gSMALL LETTER C WITH STROKE;gCAPITAL LETTER L WITH BAR;vT WITH DIAGONAL STROKE
gSMALL LETTER S WITH SWASH TAIL;tZ WITH SWASH TAIL;gCAPITAL LETTER GLOTTAL STOP
gSMALL LETTER GLOTTAL STOP;gCAPITAL LETTER B WITH STROKE;vU BAR;vTURNED V;vE WITH STROKE
gSMALL LETTER E WITH STROKE;gCAPITAL LETTER J WITH STROKE;gSMALL LETTER J WITH STROKE
gCAPITAL LETTER SMALL Q WITH HOOK TAIL;gSMALL LETTER Q WITH HOOK TAIL;gCAPITAL LETTER R WITH STROKE
gSMALL LETTER R WITH STROKE;gCAPITAL LETTER Y WITH STROKE;gSMALL LETTER Y WITH STROKE;tTURNED A
tALPHA;tTURNED ALPHA;tB WITH HOOK;tOPEN O;tC WITH CURL;tD WITH TAIL;zbHOOK;tREVERSED E;tSCHWA
y WITH HOOK;tOPEN E;tREVERSED OPEN E;zj WITH HOOK;tCLOSED REVERSED OPEN E;tDOTLESS J WITH STROKE
tG WITH HOOK;tSCRIPT G;gLETTER SMALL CAPITAL G;gSMALL LETTER GAMMA;tRAMS HORN;tTURNED H
tH WITH HOOK;uENG WITH HOOK;tI WITH STROKE;uOTA;gLETTER SMALL CAPITAL I
gSMALL LETTER L WITH MIDDLE TILDE;zbBELT;zbRETROFLEX HOOK;uEZH;tTURNED M;zc WITH LONG LEG
tM WITH HOOK;tN WITH LEFT HOOK;zbRETROFLEX HOOK;gLETTER SMALL CAPITAL N;gSMALL LETTER BARRED O
gLETTER SMALL CAPITAL OE;gSMALL LETTER CLOSED OMEGA;tPHI;tTURNED R;zc WITH LONG LEG;ziHOOK
tR WITH LONG LEG;zbTAIL;zbFISHHOOK;uEVERSED R WITH FISHHOOK;gLETTER SMALL CAPITAL R;zcINVERTED R
gSMALL LETTER S WITH HOOK;tESH;tDOTLESS J WITH STROKE AND HOOK;tSQUAT REVERSED ESH;tESH WITH CURL
tTURNED T;u WITH RETROFLEX HOOK;tU BAR;uPSILON;tV WITH HOOK;tTURNED V;zbW;zbY
gLETTER SMALL CAPITAL Y;gSMALL LETTER Z WITH RETROFLEX HOOK;zbCURL;tEZH;w WITH CURL
gLETTER GLOTTAL STOP;nPHARYNGEAL VOICED FRICATIVE;nINVERTED GLOTTAL STOP;nSTRETCHED C
nBILABIAL CLICK;nSMALL CAPITAL B;gSMALL LETTER CLOSED OPEN E;gLETTER SMALL CAPITAL G WITH HOOK;zcH
gSMALL LETTER J WITH CROSSED-TAIL;tTURNED K;gLETTER SMALL CAPITAL L;gSMALL LETTER Q WITH HOOK
gLETTER GLOTTAL STOP WITH STROKE;nREVERSED GLOTTAL STOP WITH STROKE;gSMALL LETTER DZ DIGRAPH
uEZH DIGRAPH;uZ DIGRAPH WITH CURL;tTS DIGRAPH;uESH DIGRAPH;uC DIGRAPH WITH CURL;tFENG DIGRAPH
tLS DIGRAPH;uZ DIGRAPH;gLETTER BILABIAL PERCUSSIVE;pDENTAL PERCUSSIVE
gSMALL LETTER TURNED H WITH FISHHOOK;zq AND TAIL;aMODIFIER LETTER SMALL H;x WITH HOOK;wJ;wR
wTURNED R;zf WITH HOOK;wCAPITAL INVERTED R;wW;wY;qPRIME;qDOUBLE PRIME;qTURNED COMMA;qAPOSTROPHE
qREVERSED COMMA;rIGHT HALF RING;qLEFT HALF RING;qGLOTTAL STOP;qREVERSED GLOTTAL STOP
qLEFT ARROWHEAD;qRIGHT ARROWHEAD;qUP ARROWHEAD;qDOWN ARROWHEAD;qCIRCUMFLEX ACCENT;aCARON
aMODIFIER LETTER VERTICAL LINE;qMACRON;qACUTE ACCENT;qGRAVE ACCENT;qLOW VERTICAL LINE;uMACRON
uGRAVE ACCENT;uACUTE ACCENT;qTRIANGULAR COLON;qHALF TRIANGULAR COLON;qCENTRED RIGHT HALF RING
yLEFT HALF RING;qUP TACK;qDOWN TACK;qPLUS SIGN;qMINUS SIGN;aBREVE;aDOT ABOVE;aRING ABOVE;aOGONEK
aSMALL TILDE;aDOUBLE ACUTE ACCENT;aMODIFIER LETTER RHOTIC HOOK;qCROSS ACCENT;qSMALL GAMMA;wL;wS;wX
wREVERSED GLOTTAL STOP;qEXTRA-HIGH TONE BAR;qHIGH TONE BAR;qMID TONE BAR;qLOW TONE BAR
qEXTRA-LOW TONE BAR;qYIN DEPARTING TONE MARK;rANG DEPARTING TONE MARK;qVOICING;qUNASPIRATED
qDOUBLE APOSTROPHE;qLOW DOWN ARROWHEAD;uUP ARROWHEAD;uLEFT ARROWHEAD;uRIGHT ARROWHEAD;wNG
qMIDDLE GRAVE ACCENT;xDOUBLE GRAVE ACCENT;zfACUTE ACCENT;qLOW TILDE;qRAISED COLON;qBEGIN HIGH TONE
qEND HIGH TONE;qBEGIN LOW TONE;qEND LOW TONE;qSHELF;qOPEN SHELF;qLOW LEFT ARROW
aCOMBINING GRAVE ACCENT;kACUTE ACCENT;kCIRCUMFLEX ACCENT;kTILDE;kMACRON;kOVERLINE;kBREVE;kDOT ABOVE
lIAERESIS;kHOOK ABOVE;kRING ABOVE;kDOUBLE ACUTE ACCENT;kCARON;kVERTICAL LINE ABOVE
kDOUBLE VERTICAL LINE ABOVE;rGRAVE ACCENT;kCANDRABINDU;kINVERTED BREVE;kTURNED COMMA ABOVE
kCOMMA ABOVE;kREVERSED COMMA ABOVE;kCOMMA ABOVE RIGHT;kGRAVE ACCENT BELOW;kACUTE ACCENT BELOW
kLEFT TACK BELOW;kRIGHT TACK BELOW;kLEFT ANGLE ABOVE;kHORN;kLEFT HALF RING BELOW;kUP TACK BELOW
kDOWN TACK BELOW;kPLUS SIGN BELOW;kMINUS SIGN BELOW;kPALATALIZED HOOK BELOW;kRETROFLEX HOOK BELOW
kDOT BELOW;lIAERESIS BELOW;kRING BELOW;kCOMMA BELOW;lEDILLA;kOGONEK;kVERTICAL LINE BELOW
kBRIDGE BELOW;kINVERTED DOUBLE ARCH BELOW;kCARON BELOW;lIRCUMFLEX ACCENT BELOW;kBREVE BELOW
kINVERTED BREVE BELOW;kTILDE BELOW;kMACRON BELOW;kLOW LINE;kDOUBLE LOW LINE;kTILDE OVERLAY
kSHORT STROKE OVERLAY;kLONG STROKE OVERLAY;kSHORT SOLIDUS OVERLAY;kLONG SOLIDUS OVERLAY
kRIGHT HALF RING BELOW;kINVERTED BRIDGE BELOW;kSQUARE BELOW;lEAGULL BELOW;kX ABOVE;kVERTICAL TILDE
kDOUBLE OVERLINE;kGRAVE TONE MARK;kACUTE TONE MARK;kGREEK PERISPOMENI;qKORONIS;qDIALYTIKA TONOS
qYPOGEGRAMMENI;kBRIDGE ABOVE;kEQUALS SIGN BELOW;kDOUBLE VERTICAL LINE BELOW;kLEFT ANGLE BELOW
kNOT TILDE ABOVE;kHOMOTHETIC ABOVE;kALMOST EQUAL TO ABOVE;kLEFT RIGHT ARROW BELOW
kUPWARDS ARROW BELOW;bGJ;0bOMBINING GRAPHEME JOINER;kRIGHT ARROWHEAD ABOVE;kLEFT HALF RING ABOVE
kFERMATA;kX BELOW;kLEFT ARROWHEAD BELOW;kRIGHT ARROWHEAD BELOW;zbAND UP ARROWHEAD BELOW
qHALF RING ABOVE;kDOT ABOVE RIGHT;kASTERISK BELOW;kDOUBLE RING BELOW;kZIGZAG ABOVE
kDOUBLE BREVE BELOW;w;rMACRON;x BELOW;rTILDE;rINVERTED BREVE;rRIGHTWARDS ARROW BELOW
kLATIN SMALL LETTER A;zeE;zeI;zeO;zeU;zeC;zeD;zeH;zeM;zeR;zeT;zeV;zeX;aGREEK CAPITAL LETTER HETA
gSMALL LETTER HETA;gCAPITAL LETTER ARCHAIC SAMPI;gSMALL LETTER ARCHAIC SAMPI;gNUMERAL SIGN
gLOWER NUMERAL SIGN;gCAPITAL LETTER PAMPHYLIAN DIGAMMA;gSMALL LETTER PAMPHYLIAN DIGAMMA
3gYPOGEGRAMMENI;gSMALL REVERSED LUNATE SIGMA SYMBOL;mDOTTED LUNATE SIGMA SYMBOL
mREVERSED DOTTED LUNATE SIGMA SYMBOL;gQUESTION MARK;gCAPITAL LETTER YOT;5gTONOS;gDIALYTIKA TONOS
gCAPITAL LETTER ALPHA WITH TONOS;gANO TELEIA;gCAPITAL LETTER EPSILON WITH TONOS;wTA WITH TONOS
vIOTA WITH TONOS;2vOMICRON WITH TONOS;2vUPSILON WITH TONOS;vOMEGA WITH TONOS
gSMALL LETTER IOTA WITH DIALYTIKA AND TONOS;gCAPITAL LETTER ALPHA;vBETA;vGAMMA;vDELTA;vEPSILON
vZETA;vETA;vTHETA;vIOTA;vKAPPA;vLAMDA;vMU;vNU;vXI;vOMICRON;vPI;vRHO;2vSIGMA;vTAU;vUPSILON;vPHI;vCHI
vPSI;vOMEGA;vIOTA WITH DIALYTIKA;vUPSILON WITH DIALYTIKA;gSMALL LETTER ALPHA WITH TONOS
tEPSILON WITH TONOS;uTA WITH TONOS;tIOTA WITH TONOS;tUPSILON WITH DIALYTIKA AND TONOS;tALPHA;tBETA
tGAMMA;tDELTA;tEPSILON;tZETA;tETA;tTHETA;tIOTA;tKAPPA;tLAMDA;tMU;tNU;tXI;tOMICRON;tPI;tRHO
tFINAL SIGMA;tSIGMA;tTAU;tUPSILON;tPHI;tCHI;tPSI;tOMEGA;tIOTA WITH DIALYTIKA
tUPSILON WITH DIALYTIKA;tOMICRON WITH TONOS;tUPSILON WITH TONOS;tOMEGA WITH TONOS
gCAPITAL KAI SYMBOL;gBETA SYMBOL;gTHETA SYMBOL;gUPSILON WITH HOOK SYMBOL;tACUTE AND HOOK SYMBOL
tDIAERESIS AND HOOK SYMBOL;gPHI SYMBOL;hI SYMBOL;gKAI SYMBOL;gLETTER ARCHAIC KOPPA
gSMALL LETTER ARCHAIC KOPPA;gLETTER STIGMA;gSMALL LETTER STIGMA;gLETTER DIGAMMA
gSMALL LETTER DIGAMMA;gLETTER KOPPA;gSMALL LETTER KOPPA;gLETTER SAMPI;gSMALL LETTER SAMPI
aCOPTIC CAPITAL LETTER SHEI;hSMALL LETTER SHEI;hCAPITAL LETTER FEI;hSMALL LETTER FEI
hCAPITAL LETTER KHEI;hSMALL LETTER KHEI;hCAPITAL LETTER HORI;hSMALL LETTER HORI
hCAPITAL LETTER GANGIA;hSMALL LETTER GANGIA;hCAPITAL LETTER SHIMA;hSMALL LETTER SHIMA
hCAPITAL LETTER DEI;hSMALL LETTER DEI;aGREEK KAPPA SYMBOL;gRHO SYMBOL;gLUNATE SIGMA SYMBOL
hETTER YOT;gCAPITAL THETA SYMBOL;gLUNATE EPSILON SYMBOL;gREVERSED LUNATE EPSILON SYMBOL
gCAPITAL LETTER SHO;gSMALL LETTER SHO;gCAPITAL LUNATE SIGMA SYMBOL;pETTER SAN;gSMALL LETTER SAN
gRHO WITH STROKE SYMBOL;gCAPITAL REVERSED LUNATE SIGMA SYMBOL;oDOTTED LUNATE SIGMA SYMBOL
oREVERSED DOTTED LUNATE SIGMA SYMBOL;aCYRILLIC CAPITAL LETTER IE WITH GRAVE;zaO;yDJE;yGJE
yUKRAINIAN IE;yDZE;yBYELORUSSIAN-UKRAINIAN I;yYI;yJE;yLJE;yNJE;yTSHE;yKJE;yI WITH GRAVE;ySHORT U
yDZHE;yA;yBE;yVE;yGHE;yDE;yIE;yZHE;zaE;yI;ySHORT I;yKA;yEL;zaM;zaN;yO;yPE;yER;zaS;yTE;yU;yEF;yHA
yTSE;yCHE;ySHA;zbCHA;yHARD SIGN;yYERU;ySOFT SIGN;yE;yYU;zaA;jSMALL LETTER A;wBE;wVE;wGHE;wDE;wIE
wZHE;xE;wI;wSHORT I;wKA;wEL;xM;xN;wO;wPE;wER;xS;wTE;wU;wEF;wHA;wTSE;wCHE;wSHA;yCHA;wHARD SIGN;wYERU
wSOFT SIGN;wE;wYU;xA;wIE WITH GRAVE;xO;wDJE;wGJE;wUKRAINIAN IE;wDZE;wBYELORUSSIAN-UKRAINIAN I;wYI
wJE;wLJE;wNJE;wTSHE;wKJE;wI WITH GRAVE;wSHORT U;wDZHE;jCAPITAL LETTER OMEGA;jSMALL LETTER OMEGA
jCAPITAL LETTER YAT;jSMALL LETTER YAT;jCAPITAL LETTER IOTIFIED E;jSMALL LETTER IOTIFIED E
jCAPITAL LETTER LITTLE YUS;jSMALL LETTER LITTLE YUS;jCAPITAL LETTER IOTIFIED LITTLE YUS
jSMALL LETTER IOTIFIED LITTLE YUS;jCAPITAL LETTER BIG YUS;jSMALL LETTER BIG YUS
jCAPITAL LETTER IOTIFIED BIG YUS;jSMALL LETTER IOTIFIED BIG YUS;jCAPITAL LETTER KSI
jSMALL LETTER KSI;jCAPITAL LETTER PSI;jSMALL LETTER PSI;jCAPITAL LETTER FITA;jSMALL LETTER FITA
jCAPITAL LETTER IZHITSA;jSMALL LETTER IZHITSA;jCAPITAL LETTER IZHITSA WITH DOUBLE GRAVE ACCENT
jSMALL LETTER IZHITSA WITH DOUBLE GRAVE ACCENT;jCAPITAL LETTER UK;jSMALL LETTER UK
jCAPITAL LETTER ROUND OMEGA;jSMALL LETTER ROUND OMEGA;jCAPITAL LETTER OMEGA WITH TITLO
jSMALL LETTER OMEGA WITH TITLO;jCAPITAL LETTER OT;jSMALL LETTER OT;jCAPITAL LETTER KOPPA
jSMALL LETTER KOPPA;jTHOUSANDS SIGN;bOMBINING CYRILLIC TITLO;tPALATALIZATION;tDASIA PNEUMATA
tPSILI PNEUMATA;uOKRYTIE;tHUNDRED THOUSANDS SIGN;tMILLIONS SIGN
bYRILLIC CAPITAL LETTER SHORT I WITH TAIL;jSMALL LETTER SHORT I WITH TAIL
jCAPITAL LETTER SEMISOFT SIGN;jSMALL LETTER SEMISOFT SIGN;jCAPITAL LETTER ER WITH TICK
jSMALL LETTER ER WITH TICK;jCAPITAL LETTER GHE WITH UPTURN;jSMALL LETTER GHE WITH UPTURN
jCAPITAL LETTER GHE WITH STROKE;jSMALL LETTER GHE WITH STROKE;jCAPITAL LETTER GHE WITH MIDDLE HOOK
jSMALL LETTER GHE WITH MIDDLE HOOK;jCAPITAL LETTER ZHE WITH DESCENDER
jSMALL LETTER ZHE WITH DESCENDER;jCAPITAL LETTER ZE WITH DESCENDER;jSMALL LETTER ZE WITH DESCENDER
jCAPITAL LETTER KA WITH DESCENDER;jSMALL LETTER KA WITH DESCENDER
jCAPITAL LETTER KA WITH VERTICAL STROKE;jSMALL LETTER KA WITH VERTICAL STROKE
jCAPITAL LETTER KA WITH STROKE;jSMALL LETTER KA WITH STROKE;jCAPITAL LETTER BASHKIR KA
jSMALL LETTER BASHKIR KA;jCAPITAL LETTER EN WITH DESCENDER;jSMALL LETTER EN WITH DESCENDER
jCAPITAL LIGATURE EN GHE;jSMALL LIGATURE EN GHE;jCAPITAL LETTER PE WITH MIDDLE HOOK
jSMALL LETTER PE WITH MIDDLE HOOK;jCAPITAL LETTER ABKHASIAN HA;jSMALL LETTER ABKHASIAN HA
jCAPITAL LETTER ES WITH DESCENDER;jSMALL LETTER ES WITH DESCENDER;jCAPITAL LETTER TE WITH DESCENDER
jSMALL LETTER TE WITH DESCENDER;jCAPITAL LETTER STRAIGHT U;jSMALL LETTER STRAIGHT U
jCAPITAL LETTER STRAIGHT U WITH STROKE;jSMALL LETTER STRAIGHT U WITH STROKE
jCAPITAL LETTER HA WITH DESCENDER;jSMALL LETTER HA WITH DESCENDER;jCAPITAL LIGATURE TE TSE
jSMALL LIGATURE TE TSE;jCAPITAL LETTER CHE WITH DESCENDER;jSMALL LETTER CHE WITH DESCENDER
jCAPITAL LETTER CHE WITH VERTICAL STROKE;jSMALL LETTER CHE WITH VERTICAL STROKE
jCAPITAL LETTER SHHA;jSMALL LETTER SHHA;jCAPITAL LETTER ABKHASIAN CHE;jSMALL LETTER ABKHASIAN CHE
jCAPITAL LETTER ABKHASIAN CHE WITH DESCENDER;jSMALL LETTER ABKHASIAN CHE WITH DESCENDER
jLETTER PALOCHKA;jCAPITAL LETTER ZHE WITH BREVE;jSMALL LETTER ZHE WITH BREVE
jCAPITAL LETTER KA WITH HOOK;jSMALL LETTER KA WITH HOOK;jCAPITAL LETTER EL WITH TAIL
jSMALL LETTER EL WITH TAIL;jCAPITAL LETTER EN WITH HOOK;jSMALL LETTER EN WITH HOOK
jCAPITAL LETTER EN WITH TAIL;jSMALL LETTER EN WITH TAIL;jCAPITAL LETTER KHAKASSIAN CHE
jSMALL LETTER KHAKASSIAN CHE;jCAPITAL LETTER EM WITH TAIL;jSMALL LETTER EM WITH TAIL;wPALOCHKA
jCAPITAL LETTER A WITH BREVE;jSMALL LETTER A WITH BREVE;jCAPITAL LETTER A WITH DIAERESIS
jSMALL LETTER A WITH DIAERESIS;jCAPITAL LIGATURE A IE;jSMALL LIGATURE A IE
jCAPITAL LETTER IE WITH BREVE;jSMALL LETTER IE WITH BREVE;jCAPITAL LETTER SCHWA;jSMALL LETTER SCHWA
jCAPITAL LETTER SCHWA WITH DIAERESIS;jSMALL LETTER SCHWA WITH DIAERESIS
jCAPITAL LETTER ZHE WITH DIAERESIS;jSMALL LETTER ZHE WITH DIAERESIS
jCAPITAL LETTER ZE WITH DIAERESIS;jSMALL LETTER ZE WITH DIAERESIS;jCAPITAL LETTER ABKHASIAN DZE
jSMALL LETTER ABKHASIAN DZE;jCAPITAL LETTER I WITH MACRON;jSMALL LETTER I WITH MACRON
jCAPITAL LETTER I WITH DIAERESIS;jSMALL LETTER I WITH DIAERESIS;jCAPITAL LETTER O WITH DIAERESIS
jSMALL LETTER O WITH DIAERESIS;jCAPITAL LETTER BARRED O;jSMALL LETTER BARRED O
jCAPITAL LETTER BARRED O WITH DIAERESIS;jSMALL LETTER BARRED O WITH DIAERESIS
jCAPITAL LETTER E WITH DIAERESIS;jSMALL LETTER E WITH DIAERESIS;jCAPITAL LETTER U WITH MACRON
jSMALL LETTER U WITH MACRON;jCAPITAL LETTER U WITH DIAERESIS;jSMALL LETTER U WITH DIAERESIS
jCAPITAL LETTER U WITH DOUBLE ACUTE;jSMALL LETTER U WITH DOUBLE ACUTE
jCAPITAL LETTER CHE WITH DIAERESIS;jSMALL LETTER CHE WITH DIAERESIS
jCAPITAL LETTER GHE WITH DESCENDER;jSMALL LETTER GHE WITH DESCENDER
jCAPITAL LETTER YERU WITH DIAERESIS;jSMALL LETTER YERU WITH DIAERESIS
jCAPITAL LETTER GHE WITH STROKE AND HOOK;jSMALL LETTER GHE WITH STROKE AND HOOK
jCAPITAL LETTER HA WITH HOOK;jSMALL LETTER HA WITH HOOK;jCAPITAL LETTER HA WITH STROKE
jSMALL LETTER HA WITH STROKE;jCAPITAL LETTER KOMI DE;jSMALL LETTER KOMI DE;jCAPITAL LETTER KOMI DJE
jSMALL LETTER KOMI DJE;jCAPITAL LETTER KOMI ZJE;jSMALL LETTER KOMI ZJE;jCAPITAL LETTER KOMI DZJE
jSMALL LETTER KOMI DZJE;jCAPITAL LETTER KOMI LJE;jSMALL LETTER KOMI LJE;jCAPITAL LETTER KOMI NJE
jSMALL LETTER KOMI NJE;jCAPITAL LETTER KOMI SJE;jSMALL LETTER KOMI SJE;jCAPITAL LETTER KOMI TJE
jSMALL LETTER KOMI TJE;jCAPITAL LETTER REVERSED ZE;jSMALL LETTER REVERSED ZE
jCAPITAL LETTER EL WITH HOOK;jSMALL LETTER EL WITH HOOK;jCAPITAL LETTER LHA;jSMALL LETTER LHA
jCAPITAL LETTER RHA;jSMALL LETTER RHA;jCAPITAL LETTER YAE;jSMALL LETTER YAE;jCAPITAL LETTER QA
jSMALL LETTER QA;jCAPITAL LETTER WE;jSMALL LETTER WE;jCAPITAL LETTER ALEUT KA
jSMALL LETTER ALEUT KA;jCAPITAL LETTER EL WITH MIDDLE HOOK;jSMALL LETTER EL WITH MIDDLE HOOK
jCAPITAL LETTER EN WITH MIDDLE HOOK;jSMALL LETTER EN WITH MIDDLE HOOK
jCAPITAL LETTER PE WITH DESCENDER;jSMALL LETTER PE WITH DESCENDER
jCAPITAL LETTER SHHA WITH DESCENDER;jSMALL LETTER SHHA WITH DESCENDER
jCAPITAL LETTER EN WITH LEFT HOOK;jSMALL LETTER EN WITH LEFT HOOK;jCAPITAL LETTER DZZHE
jSMALL LETTER DZZHE;jCAPITAL LETTER DCHE;jSMALL LETTER DCHE;jCAPITAL LETTER EL WITH DESCENDER
jSMALL LETTER EL WITH DESCENDER;2aARMENIAN CAPITAL LETTER AYB;yBEN;yGIM;yDA;yECH;yZA;yEH;zaT;yTO
yZHE;yINI;yLIWN;yXEH;yCA;yKEN;yHO;yJA;yGHAD;yCHEH;yMEN;yYI;yNOW;ySHA;yVO;yCHA;yPEH;yJHEH;yRA;ySEH
yVEW;yTIWN;yREH;yCO;yYIWN;yPIWR;yKEH;yOH;yFEH;3jMODIFIER LETTER LEFT HALF RING;jAPOSTROPHE
jEMPHASIS MARK;kXCLAMATION MARK;jCOMMA;jQUESTION MARK;jABBREVIATION MARK;jSMALL LETTER TURNED AYB
wAYB;wBEN;wGIM;wDA;wECH;wZA;wEH;xT;wTO;wZHE;wINI;wLIWN;wXEH;wCA;wKEN;wHO;wJA;wGHAD;wCHEH;wMEN;wYI
wNOW;wSHA;wVO;wCHA;wPEH;wJHEH;wRA;wSEH;wVEW;wTIWN;wREH;wCO;wYIWN;wPIWR;wKEH;wOH;wFEH
qIGATURE ECH YIWN;qETTER YI WITH STROKE;jFULL STOP;jHYPHEN;3aRIGHT-FACING ARMENIAN ETERNITY SIGN
aLEFT-FACING ARMENIAN ETERNITY SIGN;aARMENIAN DRAM SIGN;2aHEBREW ACCENT ETNAHTA;oSEGOL;pHALSHELET
oZAQEF QATAN;uGADOL;oTIPEHA;oREVIA;oZARQA;oPASHTA;oYETIV;oTEVIR;oGERESH;u MUQDAM;rSHAYIM
oQARNEY PARA;oTELISHA GEDOLA;oPAZER;oATNAH HAFUKH;oMUNAH;pAHAPAKH;pERKHA;u KEFULA;oDARGA;oQADMA
oTELISHA QETANA;oYERAH BEN YOMO;oOLE;oILUY;oDEHI;oZINOR;hMARK MASORA CIRCLE;hPOINT SHEVA
nHATAF SEGOL;tPATAH;tQAMATS;oIRIQ;nTSERE;nSEGOL;nPATAH;nQAMATS;nHOLAM;s HASER FOR VAV;nQUBUTS
nDAGESH OR MAPIQ;nMETEG;iUNCTUATION MAQAF;iOINT RAFE;iUNCTUATION PASEQ;iOINT SHIN DOT;oIN DOT
iUNCTUATION SOF PASUQ;hMARK UPPER DOT;mLOWER DOT;hPUNCTUATION NUN HAFUKHA;iOINT QAMATS QATAN
9hLETTER ALEF;oBET;oGIMEL;oDALET;oHE;oVAV;oZAYIN;oHET;oTET;oYOD;oFINAL KAF;oKAF;oLAMED;oFINAL MEM
oMEM;oFINAL NUN;oNUN;oSAMEKH;oAYIN;oFINAL PE;oPE;oFINAL TSADI;oTSADI;oQOF;oRESH;oSHIN;oTAV
5hYOD TRIANGLE;hLIGATURE YIDDISH DOUBLE VAV;yVAV YOD;yDOUBLE YOD;hPUNCTUATION GERESH;wSHAYIM
CaARABIC NUMBER SIGN;hSIGN SANAH;hFOOTNOTE MARKER;hSIGN SAFHA;oMVAT;hNUMBER MARK ABOVE
g-INDIC CUBE ROOT;nFOURTH ROOT;g RAY;g-INDIC PER MILLE SIGN;rTEN THOUSAND SIGN;bFGHANI SIGN
bRABIC COMMA;hDATE SEPARATOR;hPOETIC VERSE SIGN;hSIGN MISRA;mSALLALLAHOU ALAYHE WASSALLAM
mALAYHE ASSALLAM;mRAHMATULLAH ALAYHE;oDI ALLAHOU ANHU;mTAKHALLUS;iMALL HIGH TAH
sLIGATURE ALEF WITH LAM WITH YEH;sZAIN;nFATHA;nDAMMA;nKASRA;iEMICOLON;bLM;0bRABIC LETTER MARK
hEND OF TEXT MARK;hTRIPLE DOT PUNCTUATION MARK;hQUESTION MARK;hLETTER KASHMIRI YEH;oHAMZA
oALEF WITH MADDA ABOVE;yHAMZA ABOVE;oWAW WITH HAMZA ABOVE;oALEF WITH HAMZA BELOW
oYEH WITH HAMZA ABOVE;oALEF;oBEH;oTEH MARBUTA;r;pHEH;oJEEM;oHAH;oKHAH;oDAL;oTHAL;oREH;oZAIN;oSEEN
pHEEN;pAD;oDAD;oTAH;oZAH;oAIN;oGHAIN;oKEHEH WITH TWO DOTS ABOVE;zbHREE DOTS BELOW
oFARSI YEH WITH INVERTED V;zeTWO DOTS ABOVE;zfHREE DOTS ABOVE;hTATWEEL;hLETTER FEH;oQAF;oKAF;oLAM
oMEEM;oNOON;oHEH;oWAW;oALEF MAKSURA;oYEH;hFATHATAN;hDAMMATAN;hKASRATAN;hFATHA;hDAMMA;hKASRA;hSHADDA
iUKUN;hMADDAH ABOVE;hHAMZA ABOVE;nBELOW;hSUBSCRIPT ALEF;hINVERTED DAMMA;hMARK NOON GHUNNA;hZWARAKAY
hVOWEL SIGN SMALL V ABOVE;sINVERTED SMALL V ABOVE;sDOT BELOW;hREVERSED DAMMA;hFATHA WITH TWO DOTS
hWAVY HAMZA BELOW;g-INDIC DIGIT ZERO;tONE;tTWO;uHREE;tFOUR;uIVE;tSIX;uEVEN;tEIGHT;tNINE
g PERCENT SIGN;hDECIMAL SEPARATOR;hTHOUSANDS SEPARATOR;hFIVE POINTED STAR;hLETTER DOTLESS BEH;wQAF
oSUPERSCRIPT ALEF;oALEF WASLA;uITH WAVY HAMZA ABOVE;zkBELOW;oHIGH HAMZA;y ALEF;zaWAW
oU WITH HAMZA ABOVE;oHIGH HAMZA YEH;oTTEH;sEH;oBEEH;oTEH WITH RING;xTHREE DOTS ABOVE DOWNWARDS;oPEH
oTEHEH;oBEHEH;oHAH WITH HAMZA ABOVE;xTWO DOTS VERTICAL ABOVE;oNYEH;oDYEH;oHAH WITH THREE DOTS ABOVE
oTCHEH;tEH;oDDAL;pAL WITH RING;xDOT BELOW;zh AND SMALL TAH;qHAL;pDAHAL;pUL
pAL WITH THREE DOTS ABOVE DOWNWARDS;xFOUR DOTS ABOVE;oRREH;pEH WITH SMALL V;xRING;xDOT BELOW
xSMALL V BELOW;xDOT BELOW AND DOT ABOVE;xTWO DOTS ABOVE;oJEH;oREH WITH FOUR DOTS ABOVE
oSEEN WITH DOT BELOW AND DOT ABOVE;yTHREE DOTS BELOW;zp AND THREE DOTS ABOVE
pAD WITH TWO DOTS BELOW;yHREE DOTS ABOVE;oTAH WITH THREE DOTS ABOVE;oAIN WITH THREE DOTS ABOVE
oDOTLESS FEH;oFEH WITH DOT MOVED BELOW;zcBELOW;oVEH;oFEH WITH THREE DOTS BELOW;oPEHEH
oQAF WITH DOT ABOVE;xTHREE DOTS ABOVE;oKEHEH;oSWASH KAF;oKAF WITH RING;xDOT ABOVE;oNG
oKAF WITH THREE DOTS BELOW;oGAF;r WITH RING;oNGOEH;oGAF WITH TWO DOTS BELOW;pUEH
pAF WITH THREE DOTS ABOVE;oLAM WITH SMALL V;xDOT ABOVE;xTHREE DOTS ABOVE;zjBELOW
oNOON WITH DOT BELOW;tGHUNNA;oRNOON;oNOON WITH RING;yTHREE DOTS ABOVE;oHEH DOACHASHMEE
oTCHEH WITH DOT ABOVE;oHEH WITH YEH ABOVE;sGOAL;w WITH HAMZA ABOVE;oTEH MARBUTA GOAL;oWAW WITH RING
oKIRGHIZ OE;oOE;oU;oYU;oKIRGHIZ YU;oWAW WITH TWO DOTS ABOVE;oVE;oFARSI YEH;oYEH WITH TAIL;xSMALL V
oWAW WITH DOT ABOVE;oE;oYEH WITH THREE DOTS BELOW;sBARREE;y WITH HAMZA ABOVE;hFULL STOP;hLETTER AE
hSMALL HIGH LIGATURE SAD WITH LAM WITH ALEF MAKSURA;zcQAF WITH LAM WITH ALEF MAKSURA
sMEEM INITIAL FORM;sLAM ALEF;sJEEM;sTHREE DOTS;sSEEN;hEND OF AYAH;hSTART OF RUB EL HIZB
iMALL HIGH ROUNDED ZERO;sUPRIGHT RECTANGULAR ZERO;sDOTLESS HEAD OF KHAH;sMEEM ISOLATED FORM
nLOW SEEN;nHIGH MADDA;nWAW;nYEH;nHIGH YEH;sNOON;hPLACE OF SAJDAH;hEMPTY CENTRE LOW STOP;uHIGH STOP
hROUNDED HIGH STOP WITH FILLED CENTRE;hSMALL LOW MEEM;hLETTER DAL WITH INVERTED V
oREH WITH INVERTED V;aEXTENDED ARABIC-INDIC DIGIT ZERO;zdONE;zdTWO;zeHREE;zdFOUR;zeIVE;zdSIX;zeEVEN
zdEIGHT;zdNINE;aARABIC LETTER SHEEN WITH DOT BELOW;oDAD WITH DOT BELOW;oGHAIN WITH DOT BELOW
hSIGN SINDHI AMPERSAND;tPOSTPOSITION MEN;hLETTER HEH WITH INVERTED V;aSYRIAC END OF PARAGRAPH
hSUPRALINEAR FULL STOP;jBLINEAR FULL STOP;jPRALINEAR COLON;jBLINEAR COLON;hHORIZONTAL COLON
hCOLON SKEWED LEFT;uRIGHT;hSUPRALINEAR COLON SKEWED LEFT;jBLINEAR COLON SKEWED LEFT;0zfRIGHT
hCONTRACTION;hHARKLEAN OBELUS;qMETOBELUS;qASTERISCUS;2hABBREVIATION MARK;hLETTER ALAPH
oSUPERSCRIPT ALAPH;oBETH;oGAMAL;t GARSHUNI;oDALATH;pOTLESS DALATH RISH;oHE;oWAW;oZAIN;oHETH;oTETH
s GARSHUNI;oYUDH;s HE;oKAPH;oLAMADH;oMIM;oNUN;oSEMKATH;oFINAL SEMKATH;oE;oPE;oREVERSED PE;oSADHE
oQAPH;oRISH;oSHIN;oTAW;oPERSIAN BHETH;wGHAMAL;wDHALATH;hPTHAHA ABOVE;oBELOW;oDOTTED;hZQAPHA ABOVE
oBELOW;oDOTTED;hRBASA ABOVE;nBELOW;hDOTTED ZLAMA HORIZONTAL;uANGULAR;hHBASA ABOVE;nBELOW
m-ESASA DOTTED;hESASA ABOVE;nBELOW;hRWAHA;hFEMININE DOT;hQUSHSHAYA;hRUKKAKHA
hTWO VERTICAL DOTS ABOVE;zaBELOW;iHREE DOTS ABOVE;sBELOW;hOBLIQUE LINE ABOVE;uBELOW;hMUSIC;hBARREKH
3hLETTER SOGDIAN ZHAIN;wKHAPH;wFE;aARABIC LETTER BEH WITH THREE DOTS HORIZONTALLY BELOW
xDOT BELOW AND THREE DOTS ABOVE;xTHREE DOTS POINTING UPWARDS BELOW;zz BELOW AND TWO DOTS ABOVE
yWO DOTS BELOW AND DOT ABOVE;xINVERTED SMALL V BELOW;xSMALL V;oHAH WITH TWO DOTS ABOVE
yHREE DOTS POINTING UPWARDS BELOW;oDAL WITH TWO DOTS VERTICALLY BELOW AND SMALL TAH
xINVERTED SMALL V BELOW;oREH WITH STROKE;oSEEN WITH FOUR DOTS ABOVE;oAIN WITH TWO DOTS ABOVE
yHREE DOTS POINTING DOWNWARDS ABOVE;yWO DOTS VERTICALLY ABOVE;oFEH WITH TWO DOTS BELOW
yHREE DOTS POINTING UPWARDS BELOW;oKEHEH WITH DOT ABOVE;zaTHREE DOTS ABOVE;zlPOINTING UPWARDS BELOW
oMEEM WITH DOT ABOVE;zdBELOW;oNOON WITH TWO DOTS BELOW;ySMALL TAH;zfV;oLAM WITH BAR
oREH WITH TWO DOTS VERTICALLY ABOVE;xHAMZA ABOVE;oSEEN WITH TWO DOTS VERTICALLY ABOVE
oHAH WITH SMALL ARABIC LETTER TAH BELOW;zwAND TWO DOTS
oSEEN WITH SMALL ARABIC LETTER TAH AND TWO DOTS;oREH WITH SMALL ARABIC LETTER TAH AND TWO DOTS
oHAH WITH SMALL ARABIC LETTER TAH ABOVE;oALEF WITH EXTENDED ARABIC-INDIC DIGIT TWO ABOVE
zzT THREE ABOVE;oFARSI YEH WITH EXTENDED ARABIC-INDIC DIGIT TWO ABOVE;zz DIGIT THREE ABOVE
zz DIGIT FOUR BELOW;oWAW WITH EXTENDED ARABIC-INDIC DIGIT TWO ABOVE;zz THREE ABOVE
oYEH BARREE WITH EXTENDED ARABIC-INDIC DIGIT TWO ABOVE;zzC DIGIT THREE ABOVE
oHAH WITH EXTENDED ARABIC-INDIC DIGIT FOUR BELOW;oSEEN WITH EXTENDED ARABIC-INDIC DIGIT FOUR ABOVE
yINVERTED V;oKAF WITH TWO DOTS ABOVE;aTHAANA LETTER HAA;oSHAVIYANI;oNOONU;oRAA;oBAA;oLHAVIYANI
oKAAFU;oALIFU;oVAAVU;oMEEMU;oFAAFU;oDHAALU;oTHAA;oLAAMU;oGAAFU;pNAVIYANI;oSEENU;oDAVIYANI;oZAVIYANI
oTAVIYANI;oYAA;oPAVIYANI;oJAVIYANI;oCHAVIYANI;oTTAA;oHHAA;oKHAA;oTHAALU;oZAA;oSHEENU;pAADHU;oDAADHU
oTO;oZO;oAINU;oGHAINU;oQAAFU;oWAAVU;hABAFILI;iABAAFILI;hIBIFILI;hEEBEEFILI;hUBUFILI;hOOBOOFILI
hEBEFILI;iYBEYFILI;hOBOFILI;iABOAFILI;hSUKUN;hLETTER NAA;FaNKO DIGIT ZERO;kONE;kTWO;lHREE;kFOUR
lIVE;kSIX;lEVEN;kEIGHT;kNINE;eLETTER A;lEE;lI;lE;lU;lOO;m;lDAGBASINNA;lN;lBA;lPA;lTA;lJA;lCHA;lDA
lRA;mRA;lSA;lGBA;lFA;lKA;lLA;lNA WOLOSO;lMA;lNYA;mA;lHA;lWA;lYA;lNYA WOLOSO;lJONA JA;qCHA;qRA
eCOMBINING SHORT HIGH TONE;uLOW TONE;uRISING TONE;oLONG DESCENDING TONE;tHIGH TONE;tLOW TONE
tRISING TONE;oNASALIZATION MARK;oDOUBLE DOT ABOVE;eHIGH TONE APOSTROPHE;eLOW TONE APOSTROPHE
eSYMBOL OO DENNEN;lGBAKURUNEN;eCOMMA;eEXCLAMATION MARK;eLAJANYALAN;3eDANTAYALAN;fOROME SIGN
eTAMAN SIGN;aSAMARITAN LETTER ALAF;rBIT;rGAMAN;rDALAT;rIY;rBAA;rZEN;rIT;rTIT;rYUT;rKAAF;rLABAT;rMIM
rNUN;rSINGAAT;rIN;rFI;rTSAADIY;rQUF;rRISH;rSHAN;rTAAF;kMARK IN;r-ALAF;pOCCLUSION;pDAGESH
lODIFIER LETTER EPENTHETIC YUT;lARK EPENTHETIC YUT;kVOWEL SIGN LONG E;vE;vOVERLONG AA;vLONG AA;vAA
vOVERLONG A;vLONG A;vA;kMODIFIER LETTER SHORT A;kVOWEL SIGN SHORT A;vLONG U;vU;kMODIFIER LETTER I
kVOWEL SIGN LONG I;vI;vO;vSUKUN;kMARK NEQUDAA;3kPUNCTUATION NEQUDAA;wAFSAAQ;xNGED;wBAU;wATMAAU
wSHIYYAALAA;kABBREVIATION MARK;kPUNCTUATION MELODIC QITSA;wZIQAA;wQITSA;wZAEF;wTURU;wARKAANU
wSOF MASHFAAT;wANNAAU;2aMANDAIC LETTER HALQA;pAB;qG;qD;qH;pUSHENNA;pAZ;pIT;pATT;qKSA;r;qL;qM;qN;qS
pIN;pAP;qSZ;qQ;qR;qSH;qT;pDUSHENNA;pKAD;pAIN;iAFFRICATION MARK;iVOCALIZATION MARK;iGEMINATION MARK
3iPUNCTUATION;2aSYRIAC LETTER MALAYALAM NGA;yJA;yNYA;yTTA;yNNA;zbNA;yBHA;yRA;yLLA;zbLA;ySSA
6aARABIC LETTER ALEF WITH ATTACHED FATHA;ziTOP RIGHT FATHA;yRIGHT MIDDLE STROKE;yLEFT MIDDLE STROKE
yATTACHED KASRA;ziBOTTOM RIGHT KASRA;ziROUND DOT ABOVE;zjIGHT ROUND DOT;ziLEFT ROUND DOT
ziROUND DOT BELOW;yDOT ABOVE;yATTACHED TOP RIGHT FATHA AND DOT ABOVE
yRIGHT MIDDLE STROKE AND DOT ABOVE;yATTACHED BOTTOM RIGHT KASRA AND DOT ABOVE
ziTOP RIGHT FATHA AND LEFT RING;yRIGHT MIDDLE STROKE AND LEFT RING
yATTACHED BOTTOM RIGHT KASRA AND LEFT RING;ziRIGHT HAMZA;ziLEFT HAMZA
hTATWEEL WITH OVERSTRUCK HAMZA;zgWAW;uTWO DOTS BELOW;hLETTER THIN YEH;hBASELINE ROUND DOT
hRAISED ROUND DOT;hLETTER NOON WITH INVERTED SMALL V;oHAH WITH INVERTED SMALL V BELOW
oTAH WITH DOT BELOW;xTHREE DOTS BELOW;oKEHEH WITH TWO DOTS VERTICALLY BELOW;hVERTICAL TAIL
2hPOUND MARK ABOVE;iIASTRE MARK ABOVE;7hSMALL HIGH WORD AL-JUZ;nLOW WORD ISHMAAM;xMAALA;wTASHEEL
hMADDA WAAJIB;hSUPERSCRIPT ALEF MOKHASSAS;hDOUBLED MADDA;hHALF MADDA OVER MADDA
hLETTER BEH WITH SMALL V BELOW;xHAMZA ABOVE;oJEEM WITH TWO DOTS ABOVE;oTAH WITH TWO DOTS ABOVE
oFEH WITH DOT BELOW AND THREE DOTS ABOVE;oQAF WITH DOT BELOW;oLAM WITH DOUBLE BAR
oMEEM WITH THREE DOTS ABOVE;oYEH WITH TWO DOTS BELOW AND HAMZA ABOVE;zrDOT ABOVE;oREH WITH LOOP
oWAW WITH DOT WITHIN;oROHINGYA YEH;oLOW ALEF;oDAL WITH THREE DOTS BELOW;oSAD WITH THREE DOTS BELOW
oGAF WITH INVERTED STROKE;oSTRAIGHT WAW;oZAIN WITH INVERTED V ABOVE;oAIN WITH THREE DOTS BELOW
oKAF WITH DOT BELOW;oQAF WITH DOT BELOW AND NO DOTS ABOVE;oBEH WITH SMALL MEEM ABOVE
oPEH WITH SMALL MEEM ABOVE;oTEH WITH SMALL TEH ABOVE;oREH WITH SMALL NOON ABOVE
oYEH WITH TWO DOTS BELOW AND SMALL NOON ABOVE;oAFRICAN FEH;wQAF;wNOON;oPEH WITH SMALL V
oTEH WITH SMALL V;pTEH WITH SMALL V;pCHEH WITH SMALL V;oKEHEH WITH SMALL V
oGHAIN WITH THREE DOTS ABOVE;oAFRICAN QAF WITH THREE DOTS ABOVE;oJEEM WITH THREE DOTS ABOVE;zkBELOW
oLAM WITH SMALL ARABIC LETTER TAH ABOVE;oGRAF;hSMALL FARSI YEH;nHIGH FARSI YEH
sYEH BARREE WITH TWO DOTS BELOW;sWORD SAH;sZAH;hLARGE ROUND DOT ABOVE;xBELOW;hSUKUN BELOW
hLARGE CIRCLE BELOW;nROUND DOT INSIDE CIRCLE BELOW;hSMALL LOW WAW;nHIGH WORD AR-RUB;sSAD;sAIN;sQAF
sNOON WITH KASRA;nLOW NOON WITH KASRA;nHIGH WORD ATH-THALATHA;yS-SAJDA;yN-NISF;xSAKTA;xQIF;xWAQFA
sFOOTNOTE MARKER;sSIGN SAFHA;hDISPUTED END OF AYAH;hTURNED DAMMA BELOW;hCURLY FATHA;nDAMMA;nKASRA
nFATHATAN;nDAMMATAN;nKASRATAN;hTONE ONE DOT ABOVE;mTWO DOTS ABOVE;mLOOP ABOVE;mONE DOT BELOW
mTWO DOTS BELOW;mLOOP BELOW;hOPEN FATHATAN;mDAMMATAN;mKASRATAN;hSMALL HIGH WAW;hFATHA WITH RING
sDOT ABOVE;hKASRA WITH DOT BELOW;hLEFT ARROWHEAD ABOVE;hRIGHT ARROWHEAD ABOVE;hLEFT ARROWHEAD BELOW
hRIGHT ARROWHEAD BELOW;hDOUBLE RIGHT ARROWHEAD ABOVE;zk WITH DOT;hRIGHT ARROWHEAD ABOVE WITH DOT
hDAMMA WITH DOT;hMARK SIDEWAYS NOON GHUNNA;aDEVANAGARI SIGN INVERTED CANDRABINDU;qCANDRABINDU
qANUSVARA;qVISARGA;lLETTER SHORT A;sA;tA;sI;tI;sU;tU;sVOCALIC R;zbL;sCANDRA E;sSHORT E;sE;sAI
sCANDRA O;sSHORT O;sO;sAU;sKA;tHA;sGA;tHA;sNGA;sCA;tHA;sJA;tHA;sNYA;sTTA;uHA;sDDA;uHA;sNNA;sTA;tHA
sDA;tHA;sNA;tNNA;sPA;tHA;sBA;tHA;sMA;sYA;sRA;tRA;sLA;tLA;uLA;sVA;sSHA;tSA;tA;sHA;lVOWEL SIGN OE;xOE
lSIGN NUKTA;qAVAGRAHA;lVOWEL SIGN AA;wI;xI;wU;xU;wVOCALIC R;zgR;wCANDRA E;wSHORT E;wE;wAI;wCANDRA O
wSHORT O;wO;wAU;lSIGN VIRAMA;lVOWEL SIGN PRISHTHAMATRA E;wAW;lOM;lSTRESS SIGN UDATTA;xANUDATTA
lGRAVE ACCENT;lACUTE ACCENT;lVOWEL SIGN CANDRA LONG E;wUE;xUE;lLETTER QA;sKHHA;sGHHA;sZA;sDDDHA
sRHA;sFA;sYYA;sVOCALIC RR;zbLL;lVOWEL SIGN VOCALIC L;zgL;lDANDA;mOUBLE DANDA;mIGIT ZERO;rONE;rTWO
sHREE;rFOUR;sIVE;rSIX;sEVEN;rEIGHT;rNINE;lABBREVIATION SIGN;lSIGN HIGH SPACING DOT;lLETTER CANDRA A
sOE;tOE;sAW;sUE;tUE;sMARWARI DDA;sZHA;sHEAVY YA;sGGA;sJJA;sGLOTTAL STOP;sDDDA;sBBA;aBENGALI ANJI
iSIGN CANDRABINDU;nANUSVARA;nVISARGA;2iLETTER A;qA;pI;qI;pU;qU;pVOCALIC R;xL;3pE;pAI;3pO;pAU;pKA
qHA;pGA;qHA;pNGA;pCA;qHA;pJA;qHA;pNYA;pTTA;rHA;pDDA;rHA;pNNA;pTA;qHA;pDA;qHA;pNA;2pPA;qHA;pBA;qHA
pMA;pYA;pRA;2pLA;4pSHA;qSA;qA;pHA;3iSIGN NUKTA;nAVAGRAHA;iVOWEL SIGN AA;tI;uI;tU;uU;tVOCALIC R;zdR
3tE;tAI;3tO;tAU;iSIGN VIRAMA;iLETTER KHANDA TA;9iAU LENGTH MARK;5iLETTER RRA;qHA;2pYYA;pVOCALIC RR
xLL;iVOWEL SIGN VOCALIC L;zdL;3iDIGIT ZERO;oONE;oTWO;pHREE;oFOUR;pIVE;oSIX;pEVEN;oEIGHT;oNINE
iLETTER RA WITH MIDDLE DIAGONAL;xLOWER DIAGONAL;iRUPEE MARK;oSIGN;iCURRENCY NUMERATOR ONE;zcTWO
zdHREE;zcFOUR;zcONE LESS THAN THE DENOMINATOR;rDENOMINATOR SIXTEEN;iISSHAR;iGANDA MARK
iLETTER VEDIC ANUSVARA;iABBREVIATION SIGN;iSANDHI MARK;3aGURMUKHI SIGN ADAK BINDI;oBINDI;oVISARGA
2jLETTER A;rA;qI;rI;qU;rU;5qEE;qAI;3qOO;qAU;qKA;rHA;qGA;rHA;qNGA;qCA;rHA;qJA;rHA;qNYA;qTTA;sHA;qDDA
sHA;qNNA;qTA;rHA;qDA;rHA;qNA;2qPA;rHA;qBA;rHA;qMA;qYA;qRA;2qLA;rLA;2qVA;qSHA;2rA;qHA;3jSIGN NUKTA
2jVOWEL SIGN AA;uI;vI;uU;vU;5uEE;uAI;3uOO;uAU;jSIGN VIRAMA;4oUDAAT;8jLETTER KHHA;qGHHA;qZA;qRRA
2qFA;8jDIGIT ZERO;pONE;pTWO;qHREE;pFOUR;qIVE;pSIX;qEVEN;pEIGHT;pNINE;jTIPPI;jADDAK;jIRI;jURA
jEK ONKAR;jSIGN YAKASH;jABBREVIATION SIGN;BcJARATI SIGN CANDRABINDU;oANUSVARA;oVISARGA;2jLETTER A
rA;qI;rI;qU;rU;qVOCALIC R;yL;jVOWEL CANDRA E;2jLETTER E;qAI;jVOWEL CANDRA O;2jLETTER O;qAU;qKA;rHA
qGA;rHA;qNGA;qCA;rHA;qJA;rHA;qNYA;qTTA;sHA;qDDA;sHA;qNNA;qTA;rHA;qDA;rHA;qNA;2qPA;rHA;qBA;rHA;qMA
qYA;qRA;2qLA;rLA;2qVA;qSHA;rSA;rA;qHA;3jSIGN NUKTA;oAVAGRAHA;jVOWEL SIGN AA;uI;vI;uU;vU;uVOCALIC R
zeR;uCANDRA E;2uE;uAI;uCANDRA O;2uO;uAU;jSIGN VIRAMA;3jOM;10jLETTER VOCALIC RR;yLL
jVOWEL SIGN VOCALIC L;zeL;3jDIGIT ZERO;pONE;pTWO;qHREE;pFOUR;qIVE;pSIX;qEVEN;pEIGHT;pNINE
jABBREVIATION SIGN;jRUPEE SIGN;8jLETTER ZHA;jSIGN SUKUN;pHADDA;oMADDAH;oTHREE-DOT NUKTA ABOVE
oCIRCLE NUKTA ABOVE;oTWO-CIRCLE NUKTA ABOVE;2aORIYA SIGN CANDRABINDU;lANUSVARA;lVISARGA;2gLETTER A
oA;nI;oI;nU;oU;nVOCALIC R;vL;3nE;nAI;3nO;nAU;nKA;oHA;nGA;oHA;nNGA;nCA;oHA;nJA;oHA;nNYA;nTTA;pHA
nDDA;pHA;nNNA;nTA;oHA;nDA;oHA;nNA;2nPA;oHA;nBA;oHA;nMA;nYA;nRA;2nLA;oLA;2nVA;nSHA;oSA;oA;nHA
3gSIGN NUKTA;lAVAGRAHA;gVOWEL SIGN AA;rI;sI;rU;sU;rVOCALIC R;zbR;3rE;rAI;3rO;rAU;gSIGN VIRAMA
8lOVERLINE;gAI LENGTH MARK;hU LENGTH MARK;5gLETTER RRA;oHA;2nYYA;nVOCALIC RR;vLL
gVOWEL SIGN VOCALIC L;zbL;3gDIGIT ZERO;mONE;mTWO;nHREE;mFOUR;nIVE;mSIX;nEVEN;mEIGHT;mNINE;gISSHAR
gLETTER WA;gFRACTION ONE QUARTER;tHALF;pTHREE QUARTERS;pONE SIXTEENTH;tEIGHTH;pTHREE SIXTEENTHS
BaTAMIL SIGN ANUSVARA;lVISARGA;2gLETTER A;oA;nI;oI;nU;oU;4nE;oE;nAI;2nO;oO;nAU;nKA;4nNGA;nCA;2nJA
2nNYA;nTTA;4nNNA;nTA;4nNA;oNNA;nPA;4nMA;nYA;nRA;oRA;nLA;oLA;pLA;nVA;nSHA;oSA;oA;nHA;5gVOWEL SIGN AA
rI;sI;rU;sU;4rE;sE;rAI;2rO;sO;rAU;gSIGN VIRAMA;3gOM;7gAU LENGTH MARK;FgDIGIT ZERO;mONE;mTWO;nHREE
mFOUR;nIVE;mSIX;nEVEN;mEIGHT;mNINE;gNUMBER TEN;nONE HUNDRED;rTHOUSAND;gDAY SIGN;gMONTH SIGN
gYEAR SIGN;gDEBIT SIGN;gCREDIT SIGN;gAS ABOVE SIGN;gRUPEE SIGN;gNUMBER SIGN
6bELUGU SIGN COMBINING CANDRABINDU ABOVE;nANDRABINDU;mANUSVARA;mVISARGA;mCOMBINING ANUSVARA ABOVE
hLETTER A;pA;oI;pI;oU;pU;oVOCALIC R;wL;2oE;pE;oAI;2oO;pO;oAU;oKA;pHA;oGA;pHA;oNGA;oCA;pHA;oJA;pHA
oNYA;oTTA;qHA;oDDA;qHA;oNNA;oTA;pHA;oDA;pHA;oNA;2oPA;pHA;oBA;pHA;oMA;oYA;oRA;pRA;oLA;pLA;qLA;oVA
oSHA;pSA;pA;oHA;3hSIGN NUKTA;mAVAGRAHA;hVOWEL SIGN AA;sI;tI;sU;tU;sVOCALIC R;zcR;2sE;tE;sAI;2sO;tO
sAU;hSIGN VIRAMA;8hLENGTH MARK;hAI LENGTH MARK;2hLETTER TSA;oDZA;oRRRA;3oNAKAARA POLLU;3oVOCALIC RR
wLL;hVOWEL SIGN VOCALIC L;zcL;3hDIGIT ZERO;nONE;nTWO;oHREE;nFOUR;oIVE;nSIX;oEVEN;nEIGHT;nNINE
8hSIGN SIDDHAM;hFRACTION DIGIT ZERO FOR ODD POWERS OF FOUR;wONE FOR ODD POWERS OF FOUR
wTWO FOR ODD POWERS OF FOUR;xHREE FOR ODD POWERS OF FOUR;wONE FOR EVEN POWERS OF FOUR
wTWO FOR EVEN POWERS OF FOUR;xHREE FOR EVEN POWERS OF FOUR;hSIGN TUUMU
aKANNADA SIGN SPACING CANDRABINDU;nCANDRABINDU;nANUSVARA;nVISARGA;nSIDDHAM;iLETTER A;qA;pI;qI;pU;qU
pVOCALIC R;xL;2pE;qE;pAI;2pO;qO;pAU;pKA;qHA;pGA;qHA;pNGA;pCA;qHA;pJA;qHA;pNYA;pTTA;rHA;pDDA;rHA
pNNA;pTA;qHA;pDA;qHA;pNA;2pPA;qHA;pBA;qHA;pMA;pYA;pRA;qRA;pLA;qLA;2pVA;pSHA;qSA;qA;pHA;3iSIGN NUKTA
nAVAGRAHA;iVOWEL SIGN AA;tI;uI;tU;uU;tVOCALIC R;zdR;2tE;uE;tAI;2tO;uO;tAU;iSIGN VIRAMA
8iLENGTH MARK;iAI LENGTH MARK;7iLETTER NAKAARA POLLU;pFA;0pLLLA;2pVOCALIC RR;xLL
iVOWEL SIGN VOCALIC L;zdL;3iDIGIT ZERO;oONE;oTWO;pHREE;oFOUR;pIVE;oSIX;pEVEN;oEIGHT;oNINE
2iSIGN JIHVAMULIYA;nUPADHMANIYA;EaMALAYALAM SIGN COMBINING ANUSVARA ABOVE;qANDRABINDU;pANUSVARA
pVISARGA;kLETTER VEDIC ANUSVARA;rA;sA;rI;sI;rU;sU;rVOCALIC R;zaL;2rE;sE;rAI;2rO;sO;rAU;rKA;sHA;rGA
sHA;rNGA;rCA;sHA;rJA;sHA;rNYA;rTTA;tHA;rDDA;tHA;rNNA;rTA;sHA;rDA;sHA;rNA;sNNA;rPA;sHA;rBA;sHA;rMA
rYA;rRA;sRA;rLA;sLA;tLA;rVA;rSHA;sSA;sA;rHA;rTTTA;kSIGN VERTICAL BAR VIRAMA;pCIRCULAR VIRAMA
pAVAGRAHA;kVOWEL SIGN AA;vI;wI;vU;wU;vVOCALIC R;zfR;2vE;wE;vAI;2vO;wO;vAU;kSIGN VIRAMA
kLETTER DOT REPH;kSIGN PARA;5kLETTER CHILLU M;yY;yLLL;kAU LENGTH MARK
kFRACTION ONE ONE-HUNDRED-AND-SIXTIETH;xFORTIETH;tTHREE EIGHTIETHS;tONE TWENTIETH;yENTH
tTHREE TWENTIETHS;tONE FIFTH;kLETTER ARCHAIC II;rVOCALIC RR;zaLL;kVOWEL SIGN VOCALIC L;zfL
3kDIGIT ZERO;qONE;qTWO;rHREE;qFOUR;rIVE;qSIX;rEVEN;qEIGHT;qNINE;kNUMBER TEN;rONE HUNDRED;vTHOUSAND
kFRACTION ONE QUARTER;xHALF;tTHREE QUARTERS;tONE SIXTEENTH;xEIGHTH;tTHREE SIXTEENTHS;kDATE MARK
kLETTER CHILLU NN;za;yRR;yL;zaL;yK;2aSINHALA SIGN CANDRABINDU;nANUSVARAYA;nVISARGAYA
2iLETTER AYANNA;qAYANNA;qEYANNA;rEYANNA;pIYANNA;qIYANNA;pUYANNA;qUYANNA;pIRUYANNA;sUYANNA;qLUYANNA
sUYANNA;pEYANNA;qEYANNA;pAIYANNA;pOYANNA;qOYANNA;pAUYANNA;4qLPAPRAANA KAYANNA;pMAHAAPRAANA KAYANNA
pALPAPRAANA GAYANNA;pMAHAAPRAANA GAYANNA;pKANTAJA NAASIKYAYA;pSANYAKA GAYANNA;pALPAPRAANA CAYANNA
pMAHAAPRAANA CAYANNA;pALPAPRAANA JAYANNA;pMAHAAPRAANA JAYANNA;pTAALUJA NAASIKYAYA
xSANYOOGA NAAKSIKYAYA;pSANYAKA JAYANNA;pALPAPRAANA TTAYANNA;pMAHAAPRAANA TTAYANNA
pALPAPRAANA DDAYANNA;pMAHAAPRAANA DDAYANNA;qUURDHAJA NAYANNA;pSANYAKA DDAYANNA;pALPAPRAANA TAYANNA
pMAHAAPRAANA TAYANNA;pALPAPRAANA DAYANNA;pMAHAAPRAANA DAYANNA;pDANTAJA NAYANNA;2pSANYAKA DAYANNA
pALPAPRAANA PAYANNA;pMAHAAPRAANA PAYANNA;pALPAPRAANA BAYANNA;pMAHAAPRAANA BAYANNA;rYANNA
pAMBA BAYANNA;pYAYANNA;pRAYANNA;2pDANTAJA LAYANNA;3pVAYANNA;pTAALUJA SAYANNA;pMUURDHAJA SAYANNA
pDANTAJA SAYANNA;pHAYANNA;pMUURDHAJA LAYANNA;pFAYANNA;4iSIGN AL-LAKUNA;5iVOWEL SIGN AELA-PILLA
tKETTI AEDA-PILLA;tDIGA AEDA-PILLA;tKETTI IS-PILLA;tDIGA IS-PILLA;tKETTI PAA-PILLA;2tDIGA PAA-PILLA
2tGAETTA-PILLA;tKOMBUVA;tDIGA KOMBUVA;tKOMBU DEKA;yVA HAA AELA-PILLA;zgDIGA AELA-PILLA
zgGAYANUKITTA;tGAYANUKITTA;7iLITH DIGIT ZERO;tONE;tTWO;uHREE;tFOUR;uIVE;tSIX;uEVEN;tEIGHT;tNINE
3iVOWEL SIGN DIGA GAETTA-PILLA;zbYANUKITTA;iPUNCTUATION KUNDDALIYA;DaTHAI CHARACTER KO KAI;qHO KHAI
vUAT;vWAI;vON;tRAKHANG;pNGO NGU;pCHO CHAN;vING;vANG;pSO SO;pCHO CHOE;pYO YING;pDO CHADA;pTO PATAK
qHO THAN;tNANGMONTHO;tPHUTHAO;pNO NEN;pDO DEK;pTO TAO;qHO THUNG;vAHAN;vONG;pNO NU;pBO BAIMAI
pPO PLA;qHO PHUNG;pFO FA;pPHO PHAN;pFO FAN;pPHO SAMPHAO;pMO MA;pYO YAK;pRO RUA;qU;pLO LING;qU
pWO WAEN;pSO SALA;sRUSI;sSUA;pHO HIP;pLO CHULA;pO ANG;pHO NOKHUK;pPAIYANNOI;pSARA A;pMAI HAN-AKAT
pSARA AA;vM;uI;vI;uUE;wE;v;vU;pPHINTHU;5gURRENCY SYMBOL BAHT;gHARACTER SARA E;uAE;uO;uAI MAIMUAN
zcALAI;pLAKKHANGYAO;pMAIYAMOK;sTAIKHU;s EK;tTHO;uRI;tCHATTAWA;pTHANTHAKHAT;pNIKHAHIT;pYAMAKKAN
pFONGMAN;fDIGIT ZERO;lONE;lTWO;mHREE;lFOUR;mIVE;lSIX;mEVEN;lEIGHT;lNINE;fCHARACTER ANGKHANKHU
pKHOMUT;26aLAO LETTER KO;mHO SUNG;2pTAM;2lPALI GHA;lNGO;lCO;lPALI CHA;lSO TAM;2lPALI JHA;lNYO
lPALI NYA;qTTA;sHA;qDDA;sHA;qNNA;lDO;lTO;mHO SUNG;pTAM;lPALI DHA;lNO;lBO;lPO;mHO SUNG;lFO FON;0oTAM
lPHO TAM;lFO FAY;0oSUNG;lPALI BHA;lMO;lYO;lLO LING;0lRO;2lLO;0n LOOT;2lWO;lSANSKRIT SHA;vSA;mO SUNG
lHO SUNG;lPALI LLA;lO;lHO TAM;eELLIPSIS;eVOWEL SIGN A;pMAI KAN;pAA;qM;pI;qI;pY;qY;pU;qU
eSIGN PALI VIRAMA;eVOWEL SIGN MAI KON;eSEMIVOWEL SIGN LO;tNYO;3eVOWEL SIGN E;qI;pO;pAY;qI;2eKO LA
2eTONE MAI EK;nTHO;oI;nCATAWA;eCANCELLATION MARK;eNIGGAHITA;3eDIGIT ZERO;kONE;kTWO;lHREE;kFOUR;lIVE
kSIX;lEVEN;kEIGHT;kNINE;3eHO NO;hMO;eLETTER KHMU GO;qNYO;21aTIBETAN SYLLABLE OM
iMARK GTER YIG MGO TRUNCATED A;zb-UM RNAM BCAD MA;zfGTER TSHEG MA;nINITIAL YIG MGO MDUN MA
nCLOSING YIG MGO SGAB MA;oARET YIG MGO PHUR SHAD MA;nYIG MGO TSHEG SHAD MA;nSBRUL SHAD
nBSKUR YIG MGO;oKA- SHOG YIG MGO;nINTERSYLLABIC TSHEG;nDELIMITER TSHEG BSTAR;nSHAD;nNYIS SHAD
nTSHEG SHAD;nNYIS TSHEG SHAD;nRIN CHEN SPUNGS SHAD;oGYA GRAM SHAD;nCARET -DZUD RTAGS ME LONG CAN
nGTER TSHEG;iLOGOTYPE SIGN CHAD RTAGS;wLHAG RTAGS;iASTROLOGICAL SIGN SGRA GCAN -CHAR RTAGS
zb-KHYUD PA;zbSDONG TSHUGS;iSIGN RDEL DKAR GCIG;yNYIS;ySUM;sNAG GCIG;xNYIS;sDKAR RDEL NAG
iDIGIT ZERO;oONE;oTWO;pHREE;oFOUR;pIVE;oSIX;pEVEN;oEIGHT;oNINE;oHALF ONE;tTWO;uHREE;tFOUR;uIVE;tSIX
uEVEN;tEIGHT;tNINE;tZERO;iMARK BSDUS RTAGS;nNGAS BZUNG NYI ZLA;nCARET -DZUD RTAGS BZHI MIG CAN
nNGAS BZUNG SGOR RTAGS;nCHE MGO;nTSA -PHRU;nGUG RTAGS GYON;zaAS;nANG KHANG GYON;zaAS
iSIGN YAR TSHES;nMAR TSHES;iLETTER KA;qHA;pGA;qHA;pNGA;pCA;qHA;pJA;2pNYA;pTTA;rHA;pDDA;rHA;pNNA;pTA
qHA;pDA;qHA;pNA;pPA;qHA;pBA;qHA;pMA;pTSA;rHA;pDZA;rHA;pWA;pZHA;qA;p-A;pYA;pRA;pLA;pSHA;qSA;qA;pHA
pA;pKSSA;pFIXED-FORM RA;pKKA;pRRA;5iVOWEL SIGN AA;tI;uI;tU;uU;tVOCALIC R;zdR;zcL;zdL;tE;uE;tO;uO
iSIGN RJES SU NGA RO;oNAM BCAD;iVOWEL SIGN REVERSED I;zeI;iSIGN NYI ZLA NAA DA;nSNA LDAN
iMARK HALANTA;nPALUTA;iSIGN LCI RTAGS;nYANG RTAGS;nLCE TSA CAN;nMCHU CAN;nGRU CAN RGYINGS
rMED RGYINGS;nINVERTED MCHU CAN;jUBJOINED SIGN LCE TSA CAN;xMCHU CAN;xINVERTED MCHU CAN;sLETTER KA
zbHA;zaGA;zbHA;zaNGA;zaCA;zbHA;zaJA;2zaNYA;zaTTA;zcHA;zaDDA;zcHA;zaNNA;zaTA;zbHA;zaDA;zbHA;zaNA
zaPA;zbHA;zaBA;zbHA;zaMA;zaTSA;zcHA;zaDZA;zcHA;zaWA;zaZHA;zbA;za-A;zaYA;zaRA;zaLA;zaSHA;zbSA;zbA
zaHA;zaA;zaKSSA;zaFIXED-FORM WA;zlYA;zlRA;2iKU RU KHA;r BZHI MIG CAN;iCANTILLATION SIGN HEAVY BEAT
zbLIGHT BEAT;zbCANG TE-U;zbSBUB -CHAL;iSYMBOL DRIL BU;pRDO RJE;pPADMA GDAN;pRDO RJE RGYA GRAM
pPHUR PA;pNOR BU;v NYIS -KHYIL;wGSUM -KHYIL;wBZHI -KHYIL;2jIGN RDEL NAG RDEL DKAR;wGSUM
iMARK BKA- SHOG GI MGO RGYAN;0oSKA- SHOG GI MGO RGYAN;nMNYAM YIG GI MGO RGYAN;nNYIS TSHEG
nINITIAL BRDA RNYING YIG MGO MDUN MA;nCLOSING BRDA RNYING YIG MGO SGAB MA;aRIGHT-FACING SVASTI SIGN
aLEFT-FACING SVASTI SIGN;aRIGHT-FACING SVASTI SIGN WITH DOTS;aLEFT-FACING SVASTI SIGN WITH DOTS
aTIBETAN MARK LEADING MCHAN RTAGS;nTRAILING MCHAN RTAGS;26aMYANMAR LETTER KA;qHA;pGA;qHA;pNGA;pCA
qHA;pJA;qHA;pNYA;qNYA;pTTA;rHA;pDDA;rHA;pNNA;pTA;qHA;pDA;qHA;pNA;pPA;qHA;pBA;qHA;pMA;pYA;pRA;pLA
pWA;pSA;pHA;pLLA;pA;pSHAN A;pI;qI;pU;qU;pE;pMON E;pO;pAU;iVOWEL SIGN TALL AA;tAA;tI;uI;tU;uU;tE;tAI
tMON II;xO;tE ABOVE;iSIGN ANUSVARA;nDOT BELOW;nVISARGA;pRAMA;nASAT;iCONSONANT SIGN MEDIAL YA;zfRA
zfWA;zfHA;iLETTER GREAT SA;iDIGIT ZERO;oONE;oTWO;pHREE;oFOUR;pIVE;oSIX;pEVEN;oEIGHT;oNINE
iSIGN LITTLE SECTION;nSECTION;jYMBOL LOCATIVE;pCOMPLETED;pAFOREMENTIONED;pGENITIVE;iLETTER SHA;qSA
pVOCALIC R;yR;xL;yL;iVOWEL SIGN VOCALIC R;zdR;zcL;zdL;iLETTER MON NGA;tJHA;tBBA;vE
iCONSONANT SIGN MON MEDIAL NA;zjMA;zjLA;iLETTER SGAW KAREN SHA;iVOWEL SIGN SGAW KAREN EU
iTONE MARK SGAW KAREN HATHI;zeKE PHO;iLETTER WESTERN PWO KAREN THA;ziPWA
iVOWEL SIGN WESTERN PWO KAREN EU;zmUE;iSIGN WESTERN PWO KAREN TONE-1;zl2;zl3;zl4;zl5
iLETTER EASTERN PWO KAREN NNA;ziYWA;ziGHWA;iVOWEL SIGN GEBA KAREN I;tKAYAH OE;zaU;zaEE
iLETTER SHAN KA;vHA;uGA;uCA;uZA;uNYA;uDA;uNA;uPHA;uFA;uBA;uTHA;uHA;iCONSONANT SIGN SHAN MEDIAL WA
iVOWEL SIGN SHAN AA;yE;za ABOVE;yFINAL Y;iSIGN SHAN TONE-2;x3;x5;x6;sCOUNCIL TONE-2;zg3
zbEMPHATIC TONE;iLETTER RUMAI PALAUNG FA;iSIGN RUMAI PALAUNG TONE-5;jHAN DIGIT ZERO;tONE;tTWO;uHREE
tFOUR;uIVE;tSIX;uEVEN;tEIGHT;tNINE;jIGN KHAMTI TONE-1;za3;iVOWEL SIGN AITON A;zbI;iSYMBOL SHAN ONE
uEXCLAMATION;aGEORGIAN CAPITAL LETTER AN;yBAN;yGAN;yDON;yEN;yVIN;yZEN;yTAN;yIN;yKAN;yLAS;yMAN;yNAR
yON;yPAR;yZHAR;yRAE;ySAN;yTAR;yUN;yPHAR;yKHAR;yGHAN;yQAR;ySHIN;yCHIN;zaAN;yJIL;yCIL;zaHAR;yXAN
yJHAN;yHAE;zaE;zaIE;yWE;yHAR;zaOE;2yYN;6yAEN;3jLETTER AN;qBAN;qGAN;qDON;qEN;qVIN;qZEN;qTAN;qIN;qKAN
qLAS;qMAN;qNAR;qON;qPAR;qZHAR;qRAE;qSAN;qTAR;qUN;qPHAR;qKHAR;qGHAN;qQAR;qSHIN;qCHIN;rAN;qJIL;qCIL
rHAR;qXAN;qJHAN;qHAE;rE;rIE;qWE;qHAR;rOE;qFI;qYN;qELIFI;qTURNED GAN;qAIN;jPARAGRAPH SEPARATOR
aMODIFIER LETTER GEORGIAN NAR;aGEORGIAN LETTER AEN;qHARD SIGN;qLABIAL SIGN;aHANGUL CHOSEONG KIYEOK
qSSANGKIYEOK;qNIEUN;qTIKEUT;qSSANGTIKEUT;qRIEUL;qMIEUM;qPIEUP;qSSANGPIEUP;rIOS;rSANGSIOS;qIEUNG
qCIEUC;qSSANGCIEUC;qCHIEUCH;qKHIEUKH;qTHIEUTH;qPHIEUPH;qHIEUH;qNIEUN-KIYEOK;qSSANGNIEUN
qNIEUN-TIKEUT;wPIEUP;qTIKEUT-KIYEOK;qRIEUL-NIEUN;qSSANGRIEUL;qRIEUL-HIEUH;qKAPYEOUNRIEUL
qMIEUM-PIEUP;qKAPYEOUNMIEUM;qPIEUP-KIYEOK;wNIEUN;wTIKEUT;wSIOS;zb-KIYEOK;zcTIKEUT;zcPIEUP;xSANGSIOS
xIOS-CIEUC;wCIEUC;xHIEUCH;wTHIEUTH;wPHIEUPH;qKAPYEOUNPIEUP;ySSANGPIEUP;qSIOS-KIYEOK;vNIEUN;vTIKEUT
vRIEUL;vMIEUM;vPIEUP;zb-KIYEOK;vSSANGSIOS;vIEUNG;vCIEUC;wHIEUCH;vKHIEUKH;vTHIEUTH;vPHIEUPH;vHIEUH
qCHITUEUMSIOS;zaSANGSIOS;rEONGCHIEUMSIOS;zdSANGSIOS;qPANSIOS;qIEUNG-KIYEOK;wTIKEUT;wMIEUM;wPIEUP
wSIOS;wPANSIOS;qSSANGIEUNG;qIEUNG-CIEUC;xHIEUCH;wTHIEUTH;wPHIEUPH;qYESIEUNG;qCIEUC-IEUNG
rHITUEUMCIEUC;ySSANGCIEUC;rEONGCHIEUMCIEUC;zcSSANGCIEUC;rHIEUCH-KHIEUKH;yHIEUH;tTUEUMCHIEUCH
rEONGCHIEUMCHIEUCH;qPHIEUPH-PIEUP;qKAPYEOUNPHIEUPH;qSSANGHIEUH;qYEORINHIEUH;qKIYEOK-TIKEUT
qNIEUN-SIOS;wCIEUC;wHIEUH;qTIKEUT-RIEUL;qFILLER;hJUNGSEONG FILLER;rA;sE;rYA;tE;rEO;s;rYEO;t;rO;rWA
tE;rOE;rYO;rU;rWEO;t;sI;rYU;rEU;rYI;rI;rA-O;tU;rYA-O;uYO;rEO-O;uU;uEU;rYEO-O;vU;rO-EO;u;tYE;tO;tU
rYO-YA;wE;vEO;uO;uI;rU-A;uE;tEO-EU;tYE;tU;rYU-A;uEO;v;uYEO;w;uU;uI;rEU-U;uEU;rYI-U;rI-A;tYA;tO;tU
tEU;tARAEA;rARAEA;w-EO;xU;xI;rSSANGARAEA;rA-EU;rYA-U;sEO-YA;rO-YA;vE;iONGSEONG KIYEOK;rSSANGKIYEOK
rKIYEOK-SIOS;rNIEUN;w-CIEUC;xHIEUH;rTIKEUT;rRIEUL;w-KIYEOK;xMIEUM;xPIEUP;xSIOS;xTHIEUTH;xPHIEUPH
xHIEUH;rMIEUM;rPIEUP;w-SIOS;rSIOS;sSANGSIOS;rIEUNG;rCIEUC;sHIEUCH;rKHIEUKH;rTHIEUTH;rPHIEUPH;rHIEUH
rKIYEOK-RIEUL;ySIOS-KIYEOK;rNIEUN-KIYEOK;xTIKEUT;xSIOS;xPANSIOS;xTHIEUTH;rTIKEUT-KIYEOK;yRIEUL
rRIEUL-KIYEOK-SIOS;xNIEUN;xTIKEUT;ze-HIEUH;rSSANGRIEUL;rRIEUL-MIEUM-KIYEOK;zeSIOS;xPIEUP-SIOS
zeHIEUH;xKAPYEOUNPIEUP;xSSANGSIOS;xPANSIOS;xKHIEUKH;xYEORINHIEUH;rMIEUM-KIYEOK;xRIEUL;xPIEUP;xSIOS
ySANGSIOS;xPANSIOS;xCHIEUCH;xHIEUH;rKAPYEOUNMIEUM;rPIEUP-RIEUL;xPHIEUPH;xHIEUH;rKAPYEOUNPIEUP
rSIOS-KIYEOK;wTIKEUT;wRIEUL;wPIEUP;rPANSIOS;rIEUNG-KIYEOK;0rYESIEUNG-KIYEOK;rIEUNG-SSANGKIYEOK
0rYESIEUNG-SSANGKIYEOK;rSSANGIEUNG;0wYESIEUNG;rIEUNG-KHIEUKH;0rYESIEUNG-KHIEUKH;za;za-SIOS
zbPANSIOS;rPHIEUPH-PIEUP;rKAPYEOUNPHIEUPH;rHIEUH-NIEUN;xRIEUL;xMIEUM;xPIEUP;rYEORINHIEUH
rKIYEOK-NIEUN;yPIEUP;yCHIEUCH;yKHIEUKH;yHIEUH;rSSANGNIEUN;aETHIOPIC SYLLABLE HA;tU;tI;tAA;tEE;u;tO
uA;sLA;tU;tI;tAA;tEE;u;tO;tWA;sHHA;uU;uI;uAA;uEE;v;uO;uWA;sMA;tU;tI;tAA;tEE;u;tO;tWA;sSZA;uU;uI;uAA
uEE;v;uO;uWA;sRA;tU;tI;tAA;tEE;u;tO;tWA;sSA;tU;tI;tAA;tEE;u;tO;tWA;tHA;uU;uI;uAA;uEE;v;uO;uWA;sQA
tU;tI;tAA;tEE;u;tO;uA;tWA;2uI;uAA;uEE;v;3tHA;uU;uI;uAA;uEE;v;uO;2uWA;2vI;vAA;vEE;w;3sBA;tU;tI;tAA
tEE;u;tO;tWA;sVA;tU;tI;tAA;tEE;u;tO;tWA;sTA;tU;tI;tAA;tEE;u;tO;tWA;sCA;tU;tI;tAA;tEE;u;tO;tWA;sXA
tU;tI;tAA;tEE;u;tO;uA;tWA;2uI;uAA;uEE;v;3sNA;tU;tI;tAA;tEE;u;tO;tWA;tYA;uU;uI;uAA;uEE;v;uO;uWA
sGLOTTAL A;zbU;zbI;zbAA;zbEE;zc;zbO;zbWA;sKA;tU;tI;tAA;tEE;u;tO;uA;tWA;2uI;uAA;uEE;v;3tXA;uU;uI;uAA
uEE;v;uO;2uWA;2vI;vAA;vEE;w;3sWA;tU;tI;tAA;tEE;u;tO;uA;sPHARYNGEAL A;zeU;zeI;zeAA;zeEE;zf;zeO;2sZA
tU;tI;tAA;tEE;u;tO;tWA;tHA;uU;uI;uAA;uEE;v;uO;uWA;sYA;tU;tI;tAA;tEE;u;tO;uA;sDA;tU;tI;tAA;tEE;u;tO
tWA;tDA;uU;uI;uAA;uEE;v;uO;uWA;sJA;tU;tI;tAA;tEE;u;tO;tWA;sGA;tU;tI;tAA;tEE;u;tO;uA;tWA;2uI;uAA;uEE
v;3tGA;uU;uI;uAA;uEE;v;uO;uWAA;sTHA;uU;uI;uAA;uEE;v;uO;uWA;sCHA;uU;uI;uAA;uEE;v;uO;uWA;sPHA;uU;uI
uAA;uEE;v;uO;uWA;sTSA;uU;uI;uAA;uEE;v;uO;uWA;tZA;uU;uI;uAA;uEE;v;uO;vA;sFA;tU;tI;tAA;tEE;u;tO;tWA
sPA;tU;tI;tAA;tEE;u;tO;tWA;sRYA;sMYA;sFYA;3jCOMBINING GEMINATION AND VOWEL LENGTH MARK
tVOWEL LENGTH MARK;tGEMINATION MARK;jSECTION MARK;jWORDSPACE;jFULL STOP;jCOMMA;jSEMICOLON;jCOLON
jPREFACE COLON;jQUESTION MARK;jPARAGRAPH SEPARATOR;jDIGIT ONE;pTWO;qHREE;pFOUR;qIVE;pSIX;qEVEN
pEIGHT;pNINE;jNUMBER TEN;rWENTY;rHIRTY;qFORTY;rIFTY;qSIXTY;rEVENTY;qEIGHTY;qNINETY;qHUNDRED
qTEN THOUSAND;4jSYLLABLE SEBATBEIT MWA;sMWI;uEE;v;sSEBATBEIT BWA;sBWI;uEE;v;sSEBATBEIT FWA;sFWI;uEE
v;sSEBATBEIT PWA;sPWI;uEE;v;jTONAL MARK YIZET;uDERET;uRIKRIK;uSHORT RIKRIK;uDIFAT;uKENAT;uCHIRET
uHIDET;uDERET-HIDET;uKURT;7aCHEROKEE LETTER A;qE;qI;qO;qU;qV;qGA;qKA;qGE;rI;rO;rU;rV;qHA;rE;rI;rO
rU;rV;qLA;rE;rI;rO;rU;rV;qMA;rE;rI;rO;rU;qNA;qHNA;qNAH;rE;rI;rO;rU;rV;qQUA;sE;sI;sO;sU;sV;qSA;r;rE
rI;rO;rU;rV;qDA;qTA;qDE;qTE;qDI;qTI;qDO;rU;rV;rLA;qTLA;sE;sI;sO;sU;sV;rSA;sE;sI;sO;sU;sV;qWA;rE;rI
rO;rU;rV;qYA;rE;rI;rO;rU;rV;qMV;3jSMALL LETTER YE;xI;xO;xU;xV;wMV;3bANADIAN SYLLABICS HYPHEN;tE
tAAI;tI;uI;tO;uO;tY-CREE OO;tCARRIER EE;zcI;tA;uA;tWE;vST-CREE WE;uI;uEST-CREE WI;uII;uEST-CREE WII
uO;uEST-CREE WO;uOO;uEST-CREE WOO;tNASKAPI WOO;tWA;uEST-CREE WA;uAA;uEST-CREE WAA;tNASKAPI WAA;tAI
tY-CREE W;tGLOTTAL STOP;tFINAL ACUTE;zaGRAVE;zaBOTTOM HALF RING;zaTOP HALF RING;zaRIGHT HALF RING
zcNG;zaDOUBLE ACUTE;zhSHORT VERTICAL STROKES;zaMIDDLE DOT;zaSHORT HORIZONTAL STROKE;zaPLUS
zaDOWN TACK;tEN;tIN;tON;tAN;tPE;uAAI;uI;vI;uO;vO;tY-CREE POO;tCARRIER HEE;zdI;tPA;vA;uWE
tWEST-CREE PWE;tPWI;tWEST-CREE PWI;tPWII;tWEST-CREE PWII;tPWO;tWEST-CREE PWO;tPWOO;tWEST-CREE PWOO
tPWA;tWEST-CREE PWA;tPWAA;tWEST-CREE PWAA;tY-CREE PWAA;tP;tWEST-CREE P;tCARRIER H;tTE;uAAI;uI;vI;uO
vO;tY-CREE TOO;tCARRIER DEE;zdI;tTA;vA;uWE;tWEST-CREE TWE;tTWI;tWEST-CREE TWI;tTWII;tWEST-CREE TWII
tTWO;tWEST-CREE TWO;tTWOO;tWEST-CREE TWOO;tTWA;tWEST-CREE TWA;tTWAA;tWEST-CREE TWAA;tNASKAPI TWAA
tT;uTE;vI;vO;vA;tKE;uAAI;uI;vI;uO;vO;tY-CREE KOO;tKA;vA;uWE;tWEST-CREE KWE;tKWI;tWEST-CREE KWI
tKWII;tWEST-CREE KWII;tKWO;tWEST-CREE KWO;tKWOO;tWEST-CREE KWOO;tKWA;tWEST-CREE KWA;tKWAA
tWEST-CREE KWAA;tNASKAPI KWAA;tK;uW;tSOUTH-SLAVEY KEH;ziIH;ziOH;ziAH;tCE;uAAI;uI;vI;uO;vO
tY-CREE COO;tCA;vA;uWE;tWEST-CREE CWE;tCWI;tWEST-CREE CWI;tCWII;tWEST-CREE CWII;tCWO;tWEST-CREE CWO
tCWOO;tWEST-CREE CWOO;tCWA;tWEST-CREE CWA;tCWAA;tWEST-CREE CWAA;tNASKAPI CWAA;tC;tSAYISI TH;tME
uAAI;uI;vI;uO;vO;tY-CREE MOO;tMA;vA;uWE;tWEST-CREE MWE;tMWI;tWEST-CREE MWI;tMWII;tWEST-CREE MWII
tMWO;tWEST-CREE MWO;tMWOO;tWEST-CREE MWOO;tMWA;tWEST-CREE MWA;tMWAA;tWEST-CREE MWAA;tNASKAPI MWAA
tM;tWEST-CREE M;tMH;tATHAPASCAN M;tSAYISI M;tNE;uAAI;uI;vI;uO;vO;tY-CREE NOO;tNA;vA;uWE
tWEST-CREE NWE;tNWA;tWEST-CREE NWA;tNWAA;tWEST-CREE NWAA;tNASKAPI NWAA;u;tCARRIER NG;tNH;tLE;uAAI
uI;vI;uO;vO;tY-CREE LOO;tLA;vA;uWE;tWEST-CREE LWE;tLWI;tWEST-CREE LWI;tLWII;tWEST-CREE LWII;tLWO
tWEST-CREE LWO;tLWOO;tWEST-CREE LWOO;tLWA;tWEST-CREE LWA;tLWAA;tWEST-CREE LWAA;tL;tWEST-CREE L
tMEDIAL L;tSE;uAAI;uI;vI;uO;vO;tY-CREE SOO;tSA;vA;uWE;tWEST-CREE SWE;tSWI;tWEST-CREE SWI;tSWII
tWEST-CREE SWII;tSWO;tWEST-CREE SWO;tSWOO;tWEST-CREE SWOO;tSWA;tWEST-CREE SWA;tSWAA;tWEST-CREE SWAA
tNASKAPI SWAA;tS;tATHAPASCAN S;tSW;tBLACKFOOT S;tMOOSE-CREE SK;tNASKAPI SKW;zd-W;zdPWA;zdTWA;zdKWA
zdCWA;tSHE;vI;wI;vO;wO;vA;wA;vWE;tWEST-CREE SHWE;tSHWI;tWEST-CREE SHWI;tSHWII;tWEST-CREE SHWII
tSHWO;tWEST-CREE SHWO;tSHWOO;tWEST-CREE SHWOO;tSHWA;tWEST-CREE SHWA;tSHWAA;tWEST-CREE SHWAA;tSH;tYE
uAAI;uI;vI;uO;vO;u-CREE YOO;uA;vA;uWE;tWEST-CREE YWE;tYWI;tWEST-CREE YWI;tYWII;tWEST-CREE YWII;tYWO
tWEST-CREE YWO;tYWOO;tWEST-CREE YWOO;tYWA;tWEST-CREE YWA;tYWAA;tWEST-CREE YWAA;tNASKAPI YWAA;tY
tBIBLE-CREE Y;tWEST-CREE Y;tSAYISI YI;tRE;u-CREE RE;tWEST-CREE LE;tRAAI;uI;vI;uO;vO;tWEST-CREE LO
tRA;vA;tWEST-CREE LA;tRWAA;tWEST-CREE RWAA;tR;tWEST-CREE R;tMEDIAL R;tFE;uAAI;uI;vI;uO;vO;uA;vA
uWAA;tWEST-CREE FWAA;tF;tTHE;tN-CREE THE;tTHI;tN-CREE THI;tTHII;tN-CREE THII;tTHO;wO;vA;wA;vWAA
tWEST-CREE THWAA;tTH;uTHE;wI;wO;wA;w;uYE;vI;vO;vA;tNUNAVIK HE;zdI;zeI;zdO;zeO;zdA;zeA;zd;yUT H;tHK
tQAAI;uI;vI;uO;vO;uA;vA;u;tTLHE;wI;wO;wA;tWEST-CREE RE;zfI;zfO;zfA;tNGAAI;vI;wI;vO;wO;vA;wA;v;uNG
tSAYISI SHE;zdI;zdO;zdA;tWOODS-CREE THE;zhI;zhO;zhA;zh;tLHI;wI;vO;wO;vA;wA;v;tTH-CREE THE;zeI;zfI
zeO;zfO;zeA;zfA;ze;tAIVILIK B;tBLACKFOOT E;zeI;zeO;zeA;zeWE;zfI;zfO;zfA;zeNE;zfI;zfO;zfA;zeKE;zfI
zfO;zfA;tSAYISI HE;zcI;zcO;zcA;tCARRIER GHU;zeO;zeE;zfE;zeI;zeA;zcRU;zdO;zdE;zeE;zdI;zdA;zcWU;zdO
zdE;zeE;zdI;zdA;zcHWU;zeO;zeE;zfE;zeI;zeA;zcTHU;zeO;zeE;zfE;zeI;zeA;zdTU;zeO;zeE;zfE;zeI;zeA;zcPU
zdO;zdE;zeE;zdI;zdA;zd;zcGU;zdO;zdE;zeE;zdI;zdA;zcKHU;zeO;zeE;zfE;zeI;zeA;zdKU;zeO;zeE;zfE;zeI;zeA
ze;zcNU;zdO;zdE;zeE;zdI;zdA;zcMU;zdO;zdE;zeE;zdI;zdA;zcYU;zdO;zdE;zeE;zdI;zdA;zcJU;tSAYISI JU
tCARRIER JO;zdE;zeE;zdI;tSAYISI JI;tCARRIER JA;zdJU;zeO;zeE;zfE;zeI;zeA;zcLU;zdO;zdE;zeE;zdI;zdA
zcDLU;zeO;zeE;zfE;zeI;zeA;zcLHU;zeO;zeE;zfE;zeI;zeA;zcTLHU;zfO;zfE;zgE;zfI;zfA;zeU;zeO;zeE;zfE;zeI
zeA;zcZU;zdO;zdE;zeE;zdI;zdA;zd;zcINITIAL Z;zcDZU;zeO;zeE;zfE;zeI;zeA;zcSU;zdO;zdE;zeE;zdI;zdA;zdHU
zeO;zeE;zfE;zeI;zeA;ze;zcTSU;zeO;zeE;zfE;zeI;zeA;zcCHU;zeO;zeE;zfE;zeI;zeA;zcTTSU;zfO;zfE;zgE;zfI
zfA;uHI SIGN;tFULL STOP;tQAI;tNGAI;uNGI;xI;wO;xO;wA;xA;tWOODS-CREE THWEE;ziI;zjI;ziO;zjO;ziA;zjA
zfFINAL TH;tBLACKFOOT W;aOGHAM SPACE MARK;gLETTER BEITH;nLUIS;nFEARN;nSAIL;nNION;nUATH;nDAIR;nTINNE
nCOLL;oEIRT;nMUIN;nGORT;nNGEADAL;nSTRAIF;nRUIS;nAILM;nONN;nUR;nEADHADH;nIODHADH;nEABHADH;nOR
nUILLEANN;nIFIN;nEAMHANCHOLL;nPEITH;gFEATHER MARK;gREVERSED FEATHER MARK
4aRUNIC LETTER FEHU FEOH FE F;nV;nURUZ UR U;nYR;o;nW;nTHURISAZ THURS THORN;nETH;nANSUZ A;nOS O
nAC A;oESC;nLONG-BRANCH-OSS O;nSHORT-TWIG-OSS O;nO;oE;oN;nRAIDO RAD REID R;nKAUNA;nCEN;nKAUN K;nG
nENG;nGEBO GYFU G;oAR;nWUNJO WYNN W;nHAGLAZ H;pEGL H;nLONG-BRANCH-HAGALL H;nSHORT-TWIG-HAGALL H
nNAUDIZ NYD NAUD N;nSHORT-TWIG-NAUD N;nDOTTED-N;nISAZ IS ISS I;nE;nJERAN J;nGER;nLONG-BRANCH-AR AE
nSHORT-TWIG-AR A;nIWAZ EOH;nPERTHO PEORTH P;nALGIZ EOLHX;nSOWILO S;oIGEL LONG-BRANCH-SOL S
oHORT-TWIG-SOL S;nC;nZ;nTIWAZ TIR TYR T;nSHORT-TWIG-TYR T;nD;nBERKANAN BEORC BJARKAN B
nSHORT-TWIG-BJARKAN B;nDOTTED-P;nOPEN-P;nEHWAZ EH E;nMANNAZ MAN M;nLONG-BRANCH-MADR M
nSHORT-TWIG-MADR M;nLAUKAZ LAGU LOGR L;nDOTTED-L;nINGWAZ;q;nDAGAZ DAEG D;nOTHALAN ETHEL O;nEAR;nIOR
nCWEORTH;oALC;oEALC;nSTAN;nLONG-BRANCH-YR;nSHORT-TWIG-YR;nICELANDIC-YR;nQ;nX;gSINGLE PUNCTUATION
gMULTIPLE PUNCTUATION;gCROSS PUNCTUATION;gARLAUG SYMBOL;gTVIMADUR SYMBOL;gBELGTHOR SYMBOL;gLETTER K
nSH;nOO;nFRANKS CASKET OS;zcIS;zcEH;zcAC;zdESC;8aTAGALOG LETTER A;pI;pU;pKA;pGA;pNGA;pTA;pDA;pNA
pPA;pBA;pMA;pYA;pRA;pLA;pWA;pSA;pHA;iVOWEL SIGN I;tU;iSIGN VIRAMA;nPAMUDPOD;AiLETTER ARCHAIC RA
aHANUNOO LETTER A;pI;pU;pKA;pGA;pNGA;pTA;pDA;pNA;pPA;pBA;pMA;pYA;pRA;pLA;pWA;pSA;pHA;iVOWEL SIGN I
tU;iSIGN PAMUDPOD;aPHILIPPINE SINGLE PUNCTUATION;lDOUBLE PUNCTUATION;AaBUHID LETTER A;nI;nU;nKA;nGA
nNGA;nTA;nDA;nNA;nPA;nBA;nMA;nYA;nRA;nLA;nWA;nSA;nHA;gVOWEL SIGN I;rU;DaTAGBANWA LETTER A;qI;qU;qKA
qGA;qNGA;qTA;qDA;qNA;qPA;qBA;qMA;qYA;2qLA;qWA;qSA;2jVOWEL SIGN I;uU;DaKHMER LETTER KA;oHA;oO;oHO
nNGO;nCA;oHA;oO;oHO;nNYO;nDA;nTTHA;nDO;nTTHO;nNNO;nTA;oHA;oO;oHO;nNO;nBA;nPHA;oO;oHO;nMO;nYO;nRO
nLO;nVO;nSHA;oSO;oA;nHA;nLA;nQA;gINDEPENDENT VOWEL QAQ;zbA;zaI;zbI;zaU;zbK;zbU;zcV;yRY;zbY;yLY;zbY
yQE;zaAI;zaOO TYPE ONE;ziTWO;zaAU;gVOWEL INHERENT AQ;wA;mSIGN AA;rI;sI;rY;sY;rU;sU;sA;rOE;rYA;rIE
rE;rAE;sI;rOO;rAU;gSIGN NIKAHIT;lREAHMUK;lYUUKALEAPINTU;lMUUSIKATOAN;lTRIISAP;lBANTOC;lROBAT
lTOANDAKHIAT;lKAKABAT;lAHSDA;lSAMYOK SANNYA;lVIRIAM;lCOENG;lBATHAMASAT;lKHAN;lBARIYOOSAN
lCAMNUC PII KUUH;lLEK TOO;lBEYYAL;lPHNAEK MUAN;lKOOMUUT;gCURRENCY SYMBOL RIEL;gSIGN AVAKRAHASANYA
mTTHACAN;3gDIGIT ZERO;mONE;mTWO;nHREE;mFOUR;nIVE;mSIX;nEVEN;mEIGHT;mNINE;7gSYMBOL LEK ATTAK SON
xMUOY;xPII;xBEI;yUON;xPRAM;zc-MUOY;zdPII;zdBEI;zeUON;7aMONGOLIAN BIRGA;kELLIPSIS;kCOMMA;kFULL STOP
kCOLON;kFOUR DOTS;kTODO SOFT HYPHEN;kSIBE SYLLABLE BOUNDARY MARKER;kMANCHU COMMA;rFULL STOP;kNIRUGU
aFVS1;0aMONGOLIAN FREE VARIATION SELECTOR ONE;aFVS2;0aMONGOLIAN FREE VARIATION SELECTOR TWO;aFVS3
0aMONGOLIAN FREE VARIATION SELECTOR THREE;kVOWEL SEPARATOR;0bVS;aFVS4
0aMONGOLIAN FREE VARIATION SELECTOR FOUR;kDIGIT ZERO;qONE;qTWO;rHREE;qFOUR;rIVE;qSIX;rEVEN;qEIGHT
qNINE;7kLETTER A;rE;rI;rO;rU;rOE;rUE;rEE;rNA;rANG;rBA;rPA;rQA;rGA;rMA;rLA;rSA;sHA;rTA;rDA;rCHA;rJA
rYA;rRA;rWA;rFA;rKA;sHA;rTSA;rZA;rHAA;rZRA;rLHA;rZHI;rCHI;rTODO LONG VOWEL SIGN;wE;wI;wO;wU;wOE;wUE
wANG;wBA;wPA;wQA;wGA;wMA;wTA;wDA;wCHA;wJA;wTSA;wYA;wWA;wKA;wGAA;wHAA;wJIA;wNIA;wDZA;rSIBE E;wI;xY
wUE;x;wANG;wKA;wGA;wHA;wPA;wSHA;wTA;wDA;wJA;wFA;wGAA;wHAA;wTSA;wZA;wRAA;wCHA;wZHA;rMANCHU I;yKA;yRA
yFA;yZHA;rCHA WITH TWO DOTS;8rALI GALI ANUSVARA ONE;zbVISARGA ONE;zbDAMARU;zbUBADAMA
zbINVERTED UBADAMA;zbBALUDA;zbTHREE BALUDA;zbA;zbI;zbKA;zbNGA;zbCA;zbTTA;zdHA;zbDDA;zbNNA;zbTA;zbDA
zbPA;zcHA;zbSSA;zbZHA;zcA;zbAH;rTODO ALI GALI TA;zgZHA;rMANCHU ALI GALI GHA;ziNGA;ziCA;ziJHA;ziTTA
ziDDHA;ziTA;ziDHA;ziSSA;ziCYA;ziZHA;zjA;rALI GALI HALF U;zgYA;rMANCHU ALI GALI BHA
rALI GALI DAGALGA;rMANCHU ALI GALI LHA;6aCANADIAN SYLLABICS OY;tAY;uAY;tWAY;tPOY;uAY;uWOY;tTAY;tKAY
uWAY;tMAY;tNOY;uAY;tLAY;tSOY;uAY;uHOY;vAY;vWOY;tYOY;uAY;tRAY;tNWI;tOJIBWAY NWI;tNWII;tOJIBWAY NWII
tNWO;tOJIBWAY NWO;tNWOO;tOJIBWAY NWOO;tRWEE;vI;wI;vO;wO;vA;tOJIBWAY P;zcT;zcK;zcC;zcM;zcN;zcS;zdH
tEASTERN W;tWESTERN W;tFINAL SMALL RING;zaRAISED DOT;tR-CREE RWE;tWEST-CREE LOO;zfAA;tTHWE;wA;uTHWE
wOO;wAA;uLHWE;wOO;tSAYISI SHWE;zdOO;zbHOO;tCARRIER GWU;zcDENE GEE;zcGAA;zdWA;tSAYISI JUU
tCARRIER JWA;tBEAVER DENE L;zgR;tCARRIER DENTAL S;BaLIMBU VOWEL-CARRIER LETTER;gLETTER KA;oHA;nGA
oHA;nNGA;nCA;oHA;nJA;oHA;nYAN;nTA;oHA;nDA;oHA;nNA;nPA;oHA;nBA;oHA;nMA;nYA;nRA;nLA;nWA;nSHA;oSA;oA
nHA;nGYAN;nTRA;2gVOWEL SIGN A;rI;rU;rEE;rAI;rOO;rAU;rE;rO;gSUBJOINED LETTER YA;xRA;xWA
5hMALL LETTER KA;tNGA;tANUSVARA;tTA;tNA;tPA;tMA;tRA;tLA;hIGN MUKPHRENG;lKEMPHRENG;lSA-I;5lLOO
4gEXCLAMATION MARK;gQUESTION MARK;gDIGIT ZERO;mONE;mTWO;nHREE;mFOUR;nIVE;mSIX;nEVEN;mEIGHT;mNINE
aTAI LE LETTER KA;oXA;oNGA;oTSA;oSA;oYA;oTA;pHA;oLA;oPA;pHA;oMA;oFA;oVA;oHA;oQA;oKHA;oTSHA;oNA;oA
oI;oEE;pH;oU;oOO;p;oUE;oE;oAUE;pI;3oTONE-2;t3;t4;t5;t6;CaNEW TAI LUE LETTER HIGH QA;tLOW QA
tHIGH KA;yXA;yNGA;tLOW KA;xXA;xNGA;tHIGH TSA;ySA;yYA;tLOW TSA;xSA;xYA;tHIGH TA;zaHA;yNA;tLOW TA;yHA
xNA;tHIGH PA;zaHA;yMA;tLOW PA;yHA;xMA;tHIGH FA;yVA;yLA;tLOW FA;xVA;xLA;tHIGH HA;yDA;yBA;tLOW HA;xDA
xBA;tHIGH KVA;yXVA;tLOW KVA;xXVA;tHIGH SUA;tLOW SUA;5mVOWEL SIGN VOWEL SHORTENER;xAA;xII;xU;yU;xE
xAE;xO;yA;xUE;xAY;yAY;xUY;xOY;yAY;xUEY;xIY;mLETTER FINAL V;zaNG;zb;zaM;zaK;zaD;zaB;mTONE MARK-1;w2
7mDIGIT ZERO;sONE;sTWO;tHREE;sFOUR;tIVE;sSIX;tEVEN;sEIGHT;sNINE;mTHAM DIGIT ONE;4mSIGN LAE;uV
aKHMER SYMBOL PATHAMASAT;nMUOY KOET;nPII KOET;nBEI KOET;oUON KOET;nPRAM KOET;r-MUOY KOET;sPII KOET
sBEI KOET;tUON KOET;nDAP KOET;q-MUOY KOET;rPII KOET;rBEI KOET;sUON KOET;rPRAM KOET;nTUTEYASAT
nMUOY ROC;nPII ROC;nBEI ROC;oUON ROC;nPRAM ROC;r-MUOY ROC;sPII ROC;sBEI ROC;tUON ROC;nDAP ROC
q-MUOY ROC;rPII ROC;rBEI ROC;sUON ROC;rPRAM ROC;aBUGINESE LETTER KA;qGA;qNGA;sKA;qPA;qBA;qMA;rPA
qTA;qDA;qNA;rRA;qCA;qJA;qNYA;sCA;qYA;qRA;qLA;qVA;qSA;qA;qHA;jVOWEL SIGN I;uU;uE;uO;uAE;3jPALLAWA
jEND OF SECTION;aTAI THAM LETTER HIGH KA;wHA;wXA;qLOW KA;vXA;vHA;qNGA;qHIGH CA;wHA;qLOW CA;uSA;uCHA
qNYA;qRATA;qHIGH RATHA;qDA;qLOW RATHA;qRANA;qHIGH TA;wHA;qLOW TA;vHA;qNA;qBA;qHIGH PA;wHA;vFA
qLOW PA;uFA;uPHA;qMA;qLOW YA;qHIGH YA;qRA;rUE;qLA;rUE;qWA;qHIGH SHA;wSA;wA;vHA;qLLA;qA;qLOW HA;qI
rI;qU;rU;qEE;qOO;qLAE;qGREAT SA;jCONSONANT SIGN MEDIAL RA;zgLA;yLA TANG LAI;jSIGN MAI KANG LAI
jCONSONANT SIGN FINAL NGA;yLOW PA;yHIGH RATHA OR LOW PA;yMA;yBA;ySA;2jSIGN SAKOT;jVOWEL SIGN A
uMAI SAT;uAA;uTALL AA;uI;vI;uUE;vUE;v;vU;uO;vA BELOW;vY;uE;uAE;uOO;uAI;uTHAM AI;uOA ABOVE
jSIGN MAI KANG;oTONE-1;t2;oKHUEN TONE-3;za4;za5;oRA HAAM;oMAI SAM;oKHUEN-LUE KARAN
3jCOMBINING CRYPTOGRAMMIC DOT;jHORA DIGIT ZERO;uONE;uTWO;vHREE;uFOUR;vIVE;uSIX;vEVEN;uEIGHT;uNINE
7jTHAM DIGIT ZERO;uONE;uTWO;vHREE;uFOUR;vIVE;uSIX;vEVEN;uEIGHT;uNINE;7jSIGN WIANG;tWAAK;oSAWAN
oKEOW;oHOY;oDOKMAI;oREVERSED ROTATED RANA;oMAI YAMOK;oKAAN;sKUU;oSATKAAN;vKUU;oHANG;oCAANG
3aCOMBINING DOUBLED CIRCUMFLEX ACCENT;lIAERESIS-RING;kINFINITY;kDOWNWARDS ARROW;kTRIPLE DOT
kX-X BELOW;kWIGGLY LINE BELOW;kOPEN MARK BELOW;kDOUBLE OPEN MARK BELOW
kLIGHT CENTRALIZATION STROKE BELOW;kSTRONG CENTRALIZATION STROKE BELOW;kPARENTHESES ABOVE
kDOUBLE PARENTHESES ABOVE;kPARENTHESES BELOW;wOVERLAY;kLATIN SMALL LETTER W BELOW;zeTURNED W BELOW
lEFT PARENTHESIS ABOVE LEFT;kRIGHT PARENTHESIS ABOVE RIGHT;kLEFT PARENTHESIS BELOW LEFT
kRIGHT PARENTHESIS BELOW RIGHT;kSQUARE BRACKETS ABOVE;kNUMBER SIGN ABOVE
kINVERTED DOUBLE ARCH ABOVE;kPLUS SIGN ABOVE;kDOUBLE PLUS SIGN ABOVE;zcBELOW;kTRIPLE ACUTE ACCENT
kLATIN SMALL LETTER INSULAR G;zmR;zmT;32aBALINESE SIGN ULU RICEM;sCANDRA;oCECEK;oSURANG;oBISAH
jLETTER AKARA;v TEDUNG;qIKARA;v TEDUNG;qUKARA;v TEDUNG;qRA REPA;x TEDUNG;qLA LENGA;y TEDUNG;qEKARA
qAIKARA;qOKARA;v TEDUNG;qKA;s MAHAPRANA;qGA;s GORA;qNGA;qCA;s LACA;qJA;s JERA;qNYA;qTA LATIK
tMURDA MAHAPRANA;qDA MURDA ALPAPRANA;zaMAHAPRANA;qNA RAMBAT;qTA;s TAWA;qDA;s MADU;qNA;qPA;s KAPAL
qBA;s KEMBANG;qMA;qYA;qRA;qLA;qWA;qSA SAGA;vPA;s;qHA;jSIGN REREKAN;jVOWEL SIGN TEDUNG;uULU;x SARI
uSUKU;y ILUT;uRA REPA;zc TEDUNG;uLA LENGA;zd TEDUNG;uTALING;zb REPA;zcTEDUNG;zcREPA TEDUNG;uPEPET
za TEDUNG;jADEG ADEG;jLETTER KAF SASAK;rHOT SASAK;qTZIR SASAK;qEF SASAK;qVE SASAK;qZAL SASAK
qASYURA SASAK;rRCHAIC JNYA;4jDIGIT ZERO;pONE;pTWO;qHREE;pFOUR;qIVE;pSIX;qEVEN;pEIGHT;pNINE;jPANTI
lMADA;jWINDU;jCARIK PAMUNGKAH;pSIKI;pPAREREN;jPAMENENG;jMUSICAL SYMBOL DONG;zaENG;zaUNG;zaANG
zd SURANG;zaING;zaAENG;zaEUNG;zaAING;zbNG GEDE;yCOMBINING TEGEH;zjENDEP;zjKEMPUL;znLI;zjJEGOGAN
zjKEMPUL WITH JEGOGAN;znLI WITH JEGOGAN;zjBENDE;zjGONG;yRIGHT-HAND OPEN DUG;zqAG;zkCLOSED TUK;zsAK
yLEFT-HAND OPEN PANG;zpUNG;zjCLOSED PLAK;zsUK;zjOPEN PING;jPANTI LANTANG;lMADA LANTANG
2aSUNDANESE SIGN PANYECEK;sGLAYAR;tWISAD;kLETTER A;rI;rU;rAE;rO;rE;sU;rKA;rQA;rGA;rNGA;rCA;rJA;rZA
rNYA;rTA;rDA;rNA;rPA;rFA;rVA;rBA;rMA;rYA;rRA;rLA;rWA;rSA;rXA;rHA;kCONSONANT SIGN PAMINGKAL;zcNYAKRA
zeIKU;kVOWEL SIGN PANGHULU;yYUKU;yAELAENG;yOLONG;xMEPET;xNEULEUNG;kSIGN PAMAAEH;pVIRAMA
kCONSONANT SIGN PASANGAN MA;zjWA;kLETTER KHA;rSYA;kDIGIT ZERO;qONE;qTWO;rHREE;qFOUR;rIVE;qSIX;rEVEN
qEIGHT;qNINE;kAVAGRAHA;kLETTER REU;rLEU;rBHA;rFINAL K;xM;aBATAK LETTER A;nSIMALUNGUN A;nHA
nSIMALUNGUN HA;nMANDAILING HA;nBA;nKARO BA;nPA;nSIMALUNGUN PA;nNA;nMANDAILING NA;nWA;nSIMALUNGUN WA
nPAKPAK WA;nGA;nSIMALUNGUN GA;nJA;nDA;nRA;nSIMALUNGUN RA;nMA;nSIMALUNGUN MA;oOUTHERN TA
nNORTHERN TA;nSA;oIMALUNGUN SA;nMANDAILING SA;nYA;nSIMALUNGUN YA;nNGA;nLA;nSIMALUNGUN LA;nNYA;nCA
nNDA;nMBA;nI;nU;gSIGN TOMPI;gVOWEL SIGN E;rPAKPAK E;rEE;rI;rKARO I;rO;rKARO O;rU
s FOR SIMALUNGUN SA;gCONSONANT SIGN NG;vH;gPANGOLAT;jONGONAN;9gSYMBOL BINDU NA METEK;tPINARBORAS
tJUDUL;tPANGOLAT;aLEPCHA LETTER KA;pLA;pHA;oGA;pLA;oNGA;oCA;pHA;oJA;oNYA;oTA;pHA;oDA;oNA;oPA;pLA
pHA;oFA;pLA;oBA;pLA;oMA;pLA;oTSA;qHA;oDZA;oYA;oRA;oLA;oHA;pLA;oVA;oSA;pHA;oWA;oA
hSUBJOINED LETTER YA;yRA;hVOWEL SIGN AA;sI;sO;tO;sU;tU;sE;hCONSONANT SIGN K;wM;wL;wN;wP;wR;wT
wNYIN-DO;wKANG;hSIGN RAN;mNUKTA;4hPUNCTUATION TA-ROL;tNYET THYOOM TA-ROL;tCER-WA;tTSHOOK CER-WA;za
hDIGIT ZERO;nONE;nTWO;oHREE;nFOUR;oIVE;nSIX;oEVEN;nEIGHT;nNINE;4hLETTER TTA;qHA;oDDA
aOL CHIKI DIGIT ZERO;pONE;pTWO;qHREE;pFOUR;qIVE;pSIX;qEVEN;pEIGHT;pNINE;jLETTER LA;qAT;rG;rNG;rL
qLAA;qAAK;sJ;sM;sW;qLI;qIS;rH;rNY;rR;qLU;qUC;rD;rNN;rY;qLE;qEP;rDD;rN;rRR;qLO;qOTT;rB;rV;rH
jMU TTUDDAG;jGAAHLAA TTUDDAAG;jMU-GAAHLAA TTUDDAAG;jRELAA;jPHAARKAA;jAHAD;jPUNCTUATION MUCAAD
vDOUBLE MUCAAD;aCYRILLIC SMALL LETTER ROUNDED VE;wLONG-LEGGED DE;wNARROW O;wWIDE ES;wTALL TE
xHREE-LEGGED TE;xALL HARD SIGN;zcYAT;wUNBLENDED UK;8aGEORGIAN MTAVRULI CAPITAL LETTER AN;ziBAN
ziGAN;ziDON;ziEN;ziVIN;ziZEN;ziTAN;ziIN;ziKAN;ziLAS;ziMAN;ziNAR;ziON;ziPAR;ziZHAR;ziRAE;ziSAN;ziTAR
ziUN;ziPHAR;ziKHAR;ziGHAN;ziQAR;ziSHIN;ziCHIN;zjAN;ziJIL;ziCIL;zjHAR;ziXAN;ziJHAN;ziHAE;zjE;zjIE
ziWE;ziHAR;zjOE;ziFI;ziYN;ziELIFI;ziTURNED GAN;ziAIN;3zjEN;ziHARD SIGN;ziLABIAL SIGN
aSUNDANESE PUNCTUATION BINDU SURYA;zdPANGLONG;zeURNAMA;zdCAKRA;zdLEU SATANGA;zdKA SATANGA
zdDA SATANGA;zdBA SATANGA;9aVEDIC TONE KARSHANA;lSHARA;lPRENKHA;gSIGN NIHSHVASA
lYAJURVEDIC MIDLINE SVARITA;gTONE YAJURVEDIC AGGRAVATED INDEPENDENT SVARITA;wINDEPENDENT SVARITA
wKATHAKA INDEPENDENT SVARITA;lCANDRA BELOW;lYAJURVEDIC KATHAKA INDEPENDENT SVARITA SCHROEDER
lDOUBLE SVARITA;lTRIPLE SVARITA;lKATHAKA ANUDATTA;lDOT BELOW;lTWO DOTS BELOW;mHREE DOTS BELOW
lRIGVEDIC KASHMIRI INDEPENDENT SVARITA;lATHARVAVEDIC INDEPENDENT SVARITA;gSIGN VISARGA SVARITA
tUDATTA;lREVERSED VISARGA UDATTA;lVISARGA ANUDATTA;lREVERSED VISARGA ANUDATTA
lVISARGA UDATTA WITH TAIL;tANUDATTA WITH TAIL;lANUSVARA ANTARGOMUKHA;uBAHIRGOMUKHA;uVAMAGOMUKHA
zg WITH TAIL;lTIRYAK;lHEXIFORM LONG ANUSVARA;lLONG ANUSVARA;lRTHANG LONG ANUSVARA
lANUSVARA UBHAYATO MUKHA;mRDHAVISARGA;lROTATED ARDHAVISARGA;gTONE CANDRA ABOVE;gSIGN JIHVAMULIYA
lUPADHMANIYA;lATIKRAMA;gTONE RING ABOVE;lDOUBLE RING ABOVE;gSIGN DOUBLE ANUSVARA ANTARGOMUKHA
6aLATIN LETTER SMALL CAPITAL A;zdE;gSMALL LETTER TURNED AE;gLETTER SMALL CAPITAL BARRED B;zcC;zcD
zcETH;zd;gSMALL LETTER TURNED OPEN E;zbI;gLETTER SMALL CAPITAL J;zcK;zcL WITH STROKE;zcM
zcREVERSED N;zcO;zdPEN O;gSMALL LETTER SIDEWAYS O;zePEN O;ze WITH STROKE;tTURNED OE
gLETTER SMALL CAPITAL OU;gSMALL LETTER TOP HALF O;tBOTTOM HALF O;gLETTER SMALL CAPITAL P
zcREVERSED R;zcTURNED R;zd;zcU;gSMALL LETTER SIDEWAYS U;zdDIAERESIZED U;zdTURNED M
gLETTER SMALL CAPITAL V;zcW;zcZ;zcEZH;nVOICED LARYNGEAL SPIRANT;nAIN
aGREEK LETTER SMALL CAPITAL GAMMA;zcLAMDA;zcPI;zcRHO;zcPSI;aCYRILLIC LETTER SMALL CAPITAL EL
aMODIFIER LETTER CAPITAL A;zaE;yB;zaARRED B;yD;yE;yREVERSED E;yG;yH;yI;yJ;yK;yL;yM;yN;yREVERSED N
yO;zaU;yP;yR;yT;yU;yW;qSMALL A;wTURNED A;wALPHA;wTURNED AE;wB;wD;wE;wSCHWA;wOPEN E;wTURNED OPEN E
wG;wTURNED I;wK;wM;wENG;wO;xPEN O;wTOP HALF O;wBOTTOM HALF O;wP;wT;wU;wSIDEWAYS U;wTURNED M;wV;wAIN
wBETA;wGREEK GAMMA;wDELTA;wGREEK PHI;wCHI;aLATIN SUBSCRIPT SMALL LETTER I;zeR;zeU;zeV
aGREEK SUBSCRIPT SMALL LETTER BETA;zeGAMMA;zeRHO;zePHI;zeCHI;aLATIN SMALL LETTER UE
tB WITH MIDDLE TILDE;tD WITH MIDDLE TILDE;tF WITH MIDDLE TILDE;tM WITH MIDDLE TILDE
tN WITH MIDDLE TILDE;tP WITH MIDDLE TILDE;tR WITH MIDDLE TILDE;zbFISHHOOK AND MIDDLE TILDE
tS WITH MIDDLE TILDE;tT WITH MIDDLE TILDE;tZ WITH MIDDLE TILDE;tTURNED G
aMODIFIER LETTER CYRILLIC EN;aLATIN SMALL LETTER INSULAR G;tTH WITH STRIKETHROUGH
mCAPITAL LETTER I WITH STROKE;mLETTER IOTA WITH STROKE;tP WITH STROKE;mCAPITAL LETTER U WITH STROKE
mLETTER UPSILON WITH STROKE;tB WITH PALATAL HOOK;tD WITH PALATAL HOOK;tF WITH PALATAL HOOK
tG WITH PALATAL HOOK;tK WITH PALATAL HOOK;tL WITH PALATAL HOOK;tM WITH PALATAL HOOK
tN WITH PALATAL HOOK;tP WITH PALATAL HOOK;tR WITH PALATAL HOOK;tS WITH PALATAL HOOK
tESH WITH PALATAL HOOK;tV WITH PALATAL HOOK;tX WITH PALATAL HOOK;tZ WITH PALATAL HOOK
tA WITH RETROFLEX HOOK;uLPHA WITH RETROFLEX HOOK;tD WITH HOOK AND TAIL;tE WITH RETROFLEX HOOK
tOPEN E WITH RETROFLEX HOOK;tREVERSED OPEN E WITH RETROFLEX HOOK;tSCHWA WITH RETROFLEX HOOK
tI WITH RETROFLEX HOOK;tOPEN O WITH RETROFLEX HOOK;tESH WITH RETROFLEX HOOK;tU WITH RETROFLEX HOOK
tEZH WITH RETROFLEX HOOK;aMODIFIER LETTER SMALL TURNED ALPHA;wC;x WITH CURL;wETH;wREVERSED OPEN E
wF;wDOTLESS J WITH STROKE;wSCRIPT G;wTURNED H;wI WITH STROKE;xOTA;wCAPITAL I;zg WITH STROKE
wJ WITH CROSSED-TAIL;wL WITH RETROFLEX HOOK;zePALATAL HOOK;wCAPITAL L;wM WITH HOOK
wTURNED M WITH LONG LEG;wN WITH LEFT HOOK;zeRETROFLEX HOOK;wCAPITAL N;wBARRED O;wPHI;wS WITH HOOK
wESH;wT WITH PALATAL HOOK;wU BAR;xPSILON;wCAPITAL U;wV WITH HOOK;wTURNED V;wZ;x WITH RETROFLEX HOOK
zeCURL;wEZH;wTHETA;aCOMBINING DOTTED GRAVE ACCENT;rACUTE ACCENT;kSNAKE BELOW;lUSPENSION MARK
kMACRON-ACUTE;kGRAVE-MACRON;kMACRON-GRAVE;kACUTE-MACRON;kGRAVE-ACUTE-GRAVE;kACUTE-GRAVE-ACUTE
kLATIN SMALL LETTER R BELOW;kBREVE-MACRON;kMACRON-BREVE;kDOUBLE CIRCUMFLEX ABOVE;kOGONEK ABOVE
kZIGZAG BELOW;kIS BELOW;kUR ABOVE;lS ABOVE;kLATIN SMALL LETTER FLATTENED OPEN A ABOVE;zeAE;zfO;zfV
zeC CEDILLA;zeINSULAR D;zeETH;zeG;qLETTER SMALL CAPITAL G;qSMALL LETTER K;zeL
qLETTER SMALL CAPITAL L;zmM;qSMALL LETTER N;qLETTER SMALL CAPITAL N;zmR;qSMALL LETTER R ROTUNDA;zeS
zeLONG S;zeZ;zeALPHA;zeB;zfETA;zeSCHWA;zeF;zeL WITH DOUBLE MIDDLE TILDE
zeO WITH LIGHT CENTRALIZATION STROKE;zeP;zeESH;zeU WITH LIGHT CENTRALIZATION STROKE;zeW
zeA WITH DIAERESIS;zeO WITH DIAERESIS;zeU WITH DIAERESIS;kUP TACK ABOVE;kKAVYKA ABOVE RIGHT;xLEFT
kDOT ABOVE LEFT;kWIDE INVERTED BRIDGE BELOW;kDOT BELOW LEFT;lELETION MARK
lOUBLE INVERTED BREVE BELOW;kALMOST EQUAL TO BELOW;kLEFT ARROWHEAD ABOVE
kRIGHT ARROWHEAD AND DOWN ARROWHEAD BELOW;aLATIN CAPITAL LETTER A WITH RING BELOW
gSMALL LETTER A WITH RING BELOW;gCAPITAL LETTER B WITH DOT ABOVE;gSMALL LETTER B WITH DOT ABOVE
gCAPITAL LETTER B WITH DOT BELOW;gSMALL LETTER B WITH DOT BELOW;gCAPITAL LETTER B WITH LINE BELOW
gSMALL LETTER B WITH LINE BELOW;gCAPITAL LETTER C WITH CEDILLA AND ACUTE
gSMALL LETTER C WITH CEDILLA AND ACUTE;gCAPITAL LETTER D WITH DOT ABOVE
gSMALL LETTER D WITH DOT ABOVE;gCAPITAL LETTER D WITH DOT BELOW;gSMALL LETTER D WITH DOT BELOW
gCAPITAL LETTER D WITH LINE BELOW;gSMALL LETTER D WITH LINE BELOW;gCAPITAL LETTER D WITH CEDILLA
gSMALL LETTER D WITH CEDILLA;gCAPITAL LETTER D WITH CIRCUMFLEX BELOW
gSMALL LETTER D WITH CIRCUMFLEX BELOW;gCAPITAL LETTER E WITH MACRON AND GRAVE
gSMALL LETTER E WITH MACRON AND GRAVE;gCAPITAL LETTER E WITH MACRON AND ACUTE
gSMALL LETTER E WITH MACRON AND ACUTE;gCAPITAL LETTER E WITH CIRCUMFLEX BELOW
gSMALL LETTER E WITH CIRCUMFLEX BELOW;gCAPITAL LETTER E WITH TILDE BELOW
gSMALL LETTER E WITH TILDE BELOW;gCAPITAL LETTER E WITH CEDILLA AND BREVE
gSMALL LETTER E WITH CEDILLA AND BREVE;gCAPITAL LETTER F WITH DOT ABOVE
gSMALL LETTER F WITH DOT ABOVE;gCAPITAL LETTER G WITH MACRON;gSMALL LETTER G WITH MACRON
gCAPITAL LETTER H WITH DOT ABOVE;gSMALL LETTER H WITH DOT ABOVE;gCAPITAL LETTER H WITH DOT BELOW
gSMALL LETTER H WITH DOT BELOW;gCAPITAL LETTER H WITH DIAERESIS;gSMALL LETTER H WITH DIAERESIS
gCAPITAL LETTER H WITH CEDILLA;gSMALL LETTER H WITH CEDILLA;gCAPITAL LETTER H WITH BREVE BELOW
gSMALL LETTER H WITH BREVE BELOW;gCAPITAL LETTER I WITH TILDE BELOW
gSMALL LETTER I WITH TILDE BELOW;gCAPITAL LETTER I WITH DIAERESIS AND ACUTE
gSMALL LETTER I WITH DIAERESIS AND ACUTE;gCAPITAL LETTER K WITH ACUTE;gSMALL LETTER K WITH ACUTE
gCAPITAL LETTER K WITH DOT BELOW;gSMALL LETTER K WITH DOT BELOW;gCAPITAL LETTER K WITH LINE BELOW
gSMALL LETTER K WITH LINE BELOW;gCAPITAL LETTER L WITH DOT BELOW;gSMALL LETTER L WITH DOT BELOW
gCAPITAL LETTER L WITH DOT BELOW AND MACRON;gSMALL LETTER L WITH DOT BELOW AND MACRON
gCAPITAL LETTER L WITH LINE BELOW;gSMALL LETTER L WITH LINE BELOW
gCAPITAL LETTER L WITH CIRCUMFLEX BELOW;gSMALL LETTER L WITH CIRCUMFLEX BELOW
gCAPITAL LETTER M WITH ACUTE;gSMALL LETTER M WITH ACUTE;gCAPITAL LETTER M WITH DOT ABOVE
gSMALL LETTER M WITH DOT ABOVE;gCAPITAL LETTER M WITH DOT BELOW;gSMALL LETTER M WITH DOT BELOW
gCAPITAL LETTER N WITH DOT ABOVE;gSMALL LETTER N WITH DOT ABOVE;gCAPITAL LETTER N WITH DOT BELOW
gSMALL LETTER N WITH DOT BELOW;gCAPITAL LETTER N WITH LINE BELOW;gSMALL LETTER N WITH LINE BELOW
gCAPITAL LETTER N WITH CIRCUMFLEX BELOW;gSMALL LETTER N WITH CIRCUMFLEX BELOW
gCAPITAL LETTER O WITH TILDE AND ACUTE;gSMALL LETTER O WITH TILDE AND ACUTE
gCAPITAL LETTER O WITH TILDE AND DIAERESIS;gSMALL LETTER O WITH TILDE AND DIAERESIS
gCAPITAL LETTER O WITH MACRON AND GRAVE;gSMALL LETTER O WITH MACRON AND GRAVE
gCAPITAL LETTER O WITH MACRON AND ACUTE;gSMALL LETTER O WITH MACRON AND ACUTE
gCAPITAL LETTER P WITH ACUTE;gSMALL LETTER P WITH ACUTE;gCAPITAL LETTER P WITH DOT ABOVE
gSMALL LETTER P WITH DOT ABOVE;gCAPITAL LETTER R WITH DOT ABOVE;gSMALL LETTER R WITH DOT ABOVE
gCAPITAL LETTER R WITH DOT BELOW;gSMALL LETTER R WITH DOT BELOW
gCAPITAL LETTER R WITH DOT BELOW AND MACRON;gSMALL LETTER R WITH DOT BELOW AND MACRON
gCAPITAL LETTER R WITH LINE BELOW;gSMALL LETTER R WITH LINE BELOW;gCAPITAL LETTER S WITH DOT ABOVE
gSMALL LETTER S WITH DOT ABOVE;gCAPITAL LETTER S WITH DOT BELOW;gSMALL LETTER S WITH DOT BELOW
gCAPITAL LETTER S WITH ACUTE AND DOT ABOVE;gSMALL LETTER S WITH ACUTE AND DOT ABOVE
gCAPITAL LETTER S WITH CARON AND DOT ABOVE;gSMALL LETTER S WITH CARON AND DOT ABOVE
gCAPITAL LETTER S WITH DOT BELOW AND DOT ABOVE;gSMALL LETTER S WITH DOT BELOW AND DOT ABOVE
gCAPITAL LETTER T WITH DOT ABOVE;gSMALL LETTER T WITH DOT ABOVE;gCAPITAL LETTER T WITH DOT BELOW
gSMALL LETTER T WITH DOT BELOW;gCAPITAL LETTER T WITH LINE BELOW;gSMALL LETTER T WITH LINE BELOW
gCAPITAL LETTER T WITH CIRCUMFLEX BELOW;gSMALL LETTER T WITH CIRCUMFLEX BELOW
gCAPITAL LETTER U WITH DIAERESIS BELOW;gSMALL LETTER U WITH DIAERESIS BELOW
gCAPITAL LETTER U WITH TILDE BELOW;gSMALL LETTER U WITH TILDE BELOW
gCAPITAL LETTER U WITH CIRCUMFLEX BELOW;gSMALL LETTER U WITH CIRCUMFLEX BELOW
gCAPITAL LETTER U WITH TILDE AND ACUTE;gSMALL LETTER U WITH TILDE AND ACUTE
gCAPITAL LETTER U WITH MACRON AND DIAERESIS;gSMALL LETTER U WITH MACRON AND DIAERESIS
gCAPITAL LETTER V WITH TILDE;gSMALL LETTER V WITH TILDE;gCAPITAL LETTER V WITH DOT BELOW
gSMALL LETTER V WITH DOT BELOW;gCAPITAL LETTER W WITH GRAVE;gSMALL LETTER W WITH GRAVE
gCAPITAL LETTER W WITH ACUTE;gSMALL LETTER W WITH ACUTE;gCAPITAL LETTER W WITH DIAERESIS
gSMALL LETTER W WITH DIAERESIS;gCAPITAL LETTER W WITH DOT ABOVE;gSMALL LETTER W WITH DOT ABOVE
gCAPITAL LETTER W WITH DOT BELOW;gSMALL LETTER W WITH DOT BELOW;gCAPITAL LETTER X WITH DOT ABOVE
gSMALL LETTER X WITH DOT ABOVE;gCAPITAL LETTER X WITH DIAERESIS;gSMALL LETTER X WITH DIAERESIS
gCAPITAL LETTER Y WITH DOT ABOVE;gSMALL LETTER Y WITH DOT ABOVE;gCAPITAL LETTER Z WITH CIRCUMFLEX
gSMALL LETTER Z WITH CIRCUMFLEX;gCAPITAL LETTER Z WITH DOT BELOW;gSMALL LETTER Z WITH DOT BELOW
gCAPITAL LETTER Z WITH LINE BELOW;gSMALL LETTER Z WITH LINE BELOW;tH WITH LINE BELOW
tT WITH DIAERESIS;tW WITH RING ABOVE;tY WITH RING ABOVE;tA WITH RIGHT HALF RING
tLONG S WITH DOT ABOVE;zhIAGONAL STROKE;zgHIGH STROKE;gCAPITAL LETTER SHARP S;gSMALL LETTER DELTA
gCAPITAL LETTER A WITH DOT BELOW;gSMALL LETTER A WITH DOT BELOW;gCAPITAL LETTER A WITH HOOK ABOVE
gSMALL LETTER A WITH HOOK ABOVE;gCAPITAL LETTER A WITH CIRCUMFLEX AND ACUTE
gSMALL LETTER A WITH CIRCUMFLEX AND ACUTE;gCAPITAL LETTER A WITH CIRCUMFLEX AND GRAVE
gSMALL LETTER A WITH CIRCUMFLEX AND GRAVE;gCAPITAL LETTER A WITH CIRCUMFLEX AND HOOK ABOVE
gSMALL LETTER A WITH CIRCUMFLEX AND HOOK ABOVE;gCAPITAL LETTER A WITH CIRCUMFLEX AND TILDE
gSMALL LETTER A WITH CIRCUMFLEX AND TILDE;gCAPITAL LETTER A WITH CIRCUMFLEX AND DOT BELOW
gSMALL LETTER A WITH CIRCUMFLEX AND DOT BELOW;gCAPITAL LETTER A WITH BREVE AND ACUTE
gSMALL LETTER A WITH BREVE AND ACUTE;gCAPITAL LETTER A WITH BREVE AND GRAVE
gSMALL LETTER A WITH BREVE AND GRAVE;gCAPITAL LETTER A WITH BREVE AND HOOK ABOVE
gSMALL LETTER A WITH BREVE AND HOOK ABOVE;gCAPITAL LETTER A WITH BREVE AND TILDE
gSMALL LETTER A WITH BREVE AND TILDE;gCAPITAL LETTER A WITH BREVE AND DOT BELOW
gSMALL LETTER A WITH BREVE AND DOT BELOW;gCAPITAL LETTER E WITH DOT BELOW
gSMALL LETTER E WITH DOT BELOW;gCAPITAL LETTER E WITH HOOK ABOVE;gSMALL LETTER E WITH HOOK ABOVE
gCAPITAL LETTER E WITH TILDE;gSMALL LETTER E WITH TILDE;gCAPITAL LETTER E WITH CIRCUMFLEX AND ACUTE
gSMALL LETTER E WITH CIRCUMFLEX AND ACUTE;gCAPITAL LETTER E WITH CIRCUMFLEX AND GRAVE
gSMALL LETTER E WITH CIRCUMFLEX AND GRAVE;gCAPITAL LETTER E WITH CIRCUMFLEX AND HOOK ABOVE
gSMALL LETTER E WITH CIRCUMFLEX AND HOOK ABOVE;gCAPITAL LETTER E WITH CIRCUMFLEX AND TILDE
gSMALL LETTER E WITH CIRCUMFLEX AND TILDE;gCAPITAL LETTER E WITH CIRCUMFLEX AND DOT BELOW
gSMALL LETTER E WITH CIRCUMFLEX AND DOT BELOW;gCAPITAL LETTER I WITH HOOK ABOVE
gSMALL LETTER I WITH HOOK ABOVE;gCAPITAL LETTER I WITH DOT BELOW;gSMALL LETTER I WITH DOT BELOW
gCAPITAL LETTER O WITH DOT BELOW;gSMALL LETTER O WITH DOT BELOW;gCAPITAL LETTER O WITH HOOK ABOVE
gSMALL LETTER O WITH HOOK ABOVE;gCAPITAL LETTER O WITH CIRCUMFLEX AND ACUTE
gSMALL LETTER O WITH CIRCUMFLEX AND ACUTE;gCAPITAL LETTER O WITH CIRCUMFLEX AND GRAVE
gSMALL LETTER O WITH CIRCUMFLEX AND GRAVE;gCAPITAL LETTER O WITH CIRCUMFLEX AND HOOK ABOVE
gSMALL LETTER O WITH CIRCUMFLEX AND HOOK ABOVE;gCAPITAL LETTER O WITH CIRCUMFLEX AND TILDE
gSMALL LETTER O WITH CIRCUMFLEX AND TILDE;gCAPITAL LETTER O WITH CIRCUMFLEX AND DOT BELOW
gSMALL LETTER O WITH CIRCUMFLEX AND DOT BELOW;gCAPITAL LETTER O WITH HORN AND ACUTE
gSMALL LETTER O WITH HORN AND ACUTE;gCAPITAL LETTER O WITH HORN AND GRAVE
gSMALL LETTER O WITH HORN AND GRAVE;gCAPITAL LETTER O WITH HORN AND HOOK ABOVE
gSMALL LETTER O WITH HORN AND HOOK ABOVE;gCAPITAL LETTER O WITH HORN AND TILDE
gSMALL LETTER O WITH HORN AND TILDE;gCAPITAL LETTER O WITH HORN AND DOT BELOW
gSMALL LETTER O WITH HORN AND DOT BELOW;gCAPITAL LETTER U WITH DOT BELOW
gSMALL LETTER U WITH DOT BELOW;gCAPITAL LETTER U WITH HOOK ABOVE;gSMALL LETTER U WITH HOOK ABOVE
gCAPITAL LETTER U WITH HORN AND ACUTE;gSMALL LETTER U WITH HORN AND ACUTE
gCAPITAL LETTER U WITH HORN AND GRAVE;gSMALL LETTER U WITH HORN AND GRAVE
gCAPITAL LETTER U WITH HORN AND HOOK ABOVE;gSMALL LETTER U WITH HORN AND HOOK ABOVE
gCAPITAL LETTER U WITH HORN AND TILDE;gSMALL LETTER U WITH HORN AND TILDE
gCAPITAL LETTER U WITH HORN AND DOT BELOW;gSMALL LETTER U WITH HORN AND DOT BELOW
gCAPITAL LETTER Y WITH GRAVE;gSMALL LETTER Y WITH GRAVE;gCAPITAL LETTER Y WITH DOT BELOW
gSMALL LETTER Y WITH DOT BELOW;gCAPITAL LETTER Y WITH HOOK ABOVE;gSMALL LETTER Y WITH HOOK ABOVE
gCAPITAL LETTER Y WITH TILDE;gSMALL LETTER Y WITH TILDE;gCAPITAL LETTER MIDDLE-WELSH LL
gSMALL LETTER MIDDLE-WELSH LL;gCAPITAL LETTER MIDDLE-WELSH V;gSMALL LETTER MIDDLE-WELSH V
gCAPITAL LETTER Y WITH LOOP;gSMALL LETTER Y WITH LOOP;aGREEK SMALL LETTER ALPHA WITH PSILI;zfDASIA
zfPSILI AND VARIA;zfDASIA AND VARIA;zfPSILI AND OXIA;zfDASIA AND OXIA;zfPSILI AND PERISPOMENI
zfDASIA AND PERISPOMENI;gCAPITAL LETTER ALPHA WITH PSILI;zhDASIA;zhPSILI AND VARIA
zhDASIA AND VARIA;zhPSILI AND OXIA;zhDASIA AND OXIA;zhPSILI AND PERISPOMENI;zhDASIA AND PERISPOMENI
gSMALL LETTER EPSILON WITH PSILI;zhDASIA;zhPSILI AND VARIA;zhDASIA AND VARIA;zhPSILI AND OXIA
zhDASIA AND OXIA;3gCAPITAL LETTER EPSILON WITH PSILI;zjDASIA;zjPSILI AND VARIA;zjDASIA AND VARIA
zjPSILI AND OXIA;zjDASIA AND OXIA;3gSMALL LETTER ETA WITH PSILI;zdDASIA;zdPSILI AND VARIA
zdDASIA AND VARIA;zdPSILI AND OXIA;zdDASIA AND OXIA;zdPSILI AND PERISPOMENI;zdDASIA AND PERISPOMENI
gCAPITAL LETTER ETA WITH PSILI;zfDASIA;zfPSILI AND VARIA;zfDASIA AND VARIA;zfPSILI AND OXIA
zfDASIA AND OXIA;zfPSILI AND PERISPOMENI;zfDASIA AND PERISPOMENI;gSMALL LETTER IOTA WITH PSILI
zeDASIA;zePSILI AND VARIA;zeDASIA AND VARIA;zePSILI AND OXIA;zeDASIA AND OXIA
zePSILI AND PERISPOMENI;zeDASIA AND PERISPOMENI;gCAPITAL LETTER IOTA WITH PSILI;zgDASIA
zgPSILI AND VARIA;zgDASIA AND VARIA;zgPSILI AND OXIA;zgDASIA AND OXIA;zgPSILI AND PERISPOMENI
zgDASIA AND PERISPOMENI;gSMALL LETTER OMICRON WITH PSILI;zhDASIA;zhPSILI AND VARIA
zhDASIA AND VARIA;zhPSILI AND OXIA;zhDASIA AND OXIA;3gCAPITAL LETTER OMICRON WITH PSILI;zjDASIA
zjPSILI AND VARIA;zjDASIA AND VARIA;zjPSILI AND OXIA;zjDASIA AND OXIA
3gSMALL LETTER UPSILON WITH PSILI;zhDASIA;zhPSILI AND VARIA;zhDASIA AND VARIA;zhPSILI AND OXIA
zhDASIA AND OXIA;zhPSILI AND PERISPOMENI;zhDASIA AND PERISPOMENI
2gCAPITAL LETTER UPSILON WITH DASIA;2zo AND VARIA;2ztOXIA;2ztPERISPOMENI
gSMALL LETTER OMEGA WITH PSILI;zfDASIA;zfPSILI AND VARIA;zfDASIA AND VARIA;zfPSILI AND OXIA
zfDASIA AND OXIA;zfPSILI AND PERISPOMENI;zfDASIA AND PERISPOMENI;gCAPITAL LETTER OMEGA WITH PSILI
zhDASIA;zhPSILI AND VARIA;zhDASIA AND VARIA;zhPSILI AND OXIA;zhDASIA AND OXIA
zhPSILI AND PERISPOMENI;zhDASIA AND PERISPOMENI;gSMALL LETTER ALPHA WITH VARIA;zfOXIA
tEPSILON WITH VARIA;zhOXIA;uTA WITH VARIA;zdOXIA;tIOTA WITH VARIA;zeOXIA;tOMICRON WITH VARIA;zhOXIA
tUPSILON WITH VARIA;zhOXIA;tOMEGA WITH VARIA;zfOXIA;3tALPHA WITH PSILI AND YPOGEGRAMMENI
zfDASIA AND YPOGEGRAMMENI;zfPSILI AND VARIA AND YPOGEGRAMMENI;zfDASIA AND VARIA AND YPOGEGRAMMENI
zfPSILI AND OXIA AND YPOGEGRAMMENI;zfDASIA AND OXIA AND YPOGEGRAMMENI
zfPSILI AND PERISPOMENI AND YPOGEGRAMMENI;zfDASIA AND PERISPOMENI AND YPOGEGRAMMENI
gCAPITAL LETTER ALPHA WITH PSILI AND PROSGEGRAMMENI;zhDASIA AND PROSGEGRAMMENI
zhPSILI AND VARIA AND PROSGEGRAMMENI;zhDASIA AND VARIA AND PROSGEGRAMMENI
zhPSILI AND OXIA AND PROSGEGRAMMENI;zhDASIA AND OXIA AND PROSGEGRAMMENI
zhPSILI AND PERISPOMENI AND PROSGEGRAMMENI;zhDASIA AND PERISPOMENI AND PROSGEGRAMMENI
gSMALL LETTER ETA WITH PSILI AND YPOGEGRAMMENI;zdDASIA AND YPOGEGRAMMENI
zdPSILI AND VARIA AND YPOGEGRAMMENI;zdDASIA AND VARIA AND YPOGEGRAMMENI
zdPSILI AND OXIA AND YPOGEGRAMMENI;zdDASIA AND OXIA AND YPOGEGRAMMENI
zdPSILI AND PERISPOMENI AND YPOGEGRAMMENI;zdDASIA AND PERISPOMENI AND YPOGEGRAMMENI
gCAPITAL LETTER ETA WITH PSILI AND PROSGEGRAMMENI;zfDASIA AND PROSGEGRAMMENI
zfPSILI AND VARIA AND PROSGEGRAMMENI;zfDASIA AND VARIA AND PROSGEGRAMMENI
zfPSILI AND OXIA AND PROSGEGRAMMENI;zfDASIA AND OXIA AND PROSGEGRAMMENI
zfPSILI AND PERISPOMENI AND PROSGEGRAMMENI;zfDASIA AND PERISPOMENI AND PROSGEGRAMMENI
gSMALL LETTER OMEGA WITH PSILI AND YPOGEGRAMMENI;zfDASIA AND YPOGEGRAMMENI
zfPSILI AND VARIA AND YPOGEGRAMMENI;zfDASIA AND VARIA AND YPOGEGRAMMENI
zfPSILI AND OXIA AND YPOGEGRAMMENI;zfDASIA AND OXIA AND YPOGEGRAMMENI
zfPSILI AND PERISPOMENI AND YPOGEGRAMMENI;zfDASIA AND PERISPOMENI AND YPOGEGRAMMENI
gCAPITAL LETTER OMEGA WITH PSILI AND PROSGEGRAMMENI;zhDASIA AND PROSGEGRAMMENI
zhPSILI AND VARIA AND PROSGEGRAMMENI;zhDASIA AND VARIA AND PROSGEGRAMMENI
zhPSILI AND OXIA AND PROSGEGRAMMENI;zhDASIA AND OXIA AND PROSGEGRAMMENI
zhPSILI AND PERISPOMENI AND PROSGEGRAMMENI;zhDASIA AND PERISPOMENI AND PROSGEGRAMMENI
gSMALL LETTER ALPHA WITH VRACHY;zfMACRON;zfVARIA AND YPOGEGRAMMENI;zfYPOGEGRAMMENI
zfOXIA AND YPOGEGRAMMENI;2zfPERISPOMENI;zq AND YPOGEGRAMMENI;gCAPITAL LETTER ALPHA WITH VRACHY
zhMACRON;zhVARIA;zhOXIA;zhPROSGEGRAMMENI;gKORONIS;gPROSGEGRAMMENI;hSILI;hERISPOMENI
gDIALYTIKA AND PERISPOMENI;gSMALL LETTER ETA WITH VARIA AND YPOGEGRAMMENI;zdYPOGEGRAMMENI
zdOXIA AND YPOGEGRAMMENI;2zdPERISPOMENI;zo AND YPOGEGRAMMENI;gCAPITAL LETTER EPSILON WITH VARIA
zjOXIA;wTA WITH VARIA;zfOXIA;zfPROSGEGRAMMENI;gPSILI AND VARIA;qOXIA;qPERISPOMENI
gSMALL LETTER IOTA WITH VRACHY;zeMACRON;zeDIALYTIKA AND VARIA;zsOXIA;3zePERISPOMENI
zeDIALYTIKA AND PERISPOMENI;gCAPITAL LETTER IOTA WITH VRACHY;zgMACRON;zgVARIA;zgOXIA
2gDASIA AND VARIA;qOXIA;qPERISPOMENI;gSMALL LETTER UPSILON WITH VRACHY;zhMACRON
zhDIALYTIKA AND VARIA;zvOXIA;tRHO WITH PSILI;zdDASIA;tUPSILON WITH PERISPOMENI
zhDIALYTIKA AND PERISPOMENI;gCAPITAL LETTER UPSILON WITH VRACHY;zjMACRON;zjVARIA;zjOXIA
vRHO WITH DASIA;gDIALYTIKA AND VARIA;uOXIA;gVARIA;3gSMALL LETTER OMEGA WITH VARIA AND YPOGEGRAMMENI
zfYPOGEGRAMMENI;zfOXIA AND YPOGEGRAMMENI;2zfPERISPOMENI;zq AND YPOGEGRAMMENI
gCAPITAL LETTER OMICRON WITH VARIA;zjOXIA;xEGA WITH VARIA;zhOXIA;zhPROSGEGRAMMENI;gOXIA;gDASIA
2aEN QUAD;bM QUAD;bN SPACE;bM SPACE;aTHREE-PER-EM SPACE;aFOUR-PER-EM SPACE;aSIX-PER-EM SPACE
aFIGURE SPACE;aPUNCTUATION SPACE;aTHIN SPACE;aHAIR SPACE;aZERO WIDTH SPACE;0bWSP
bERO WIDTH NON-JOINER;0bWNJ;bERO WIDTH JOINER;0bWJ;aLEFT-TO-RIGHT MARK;0bRM;aRIGHT-TO-LEFT MARK
0bLM;aHYPHEN;aNON-BREAKING HYPHEN;aFIGURE DASH;aEN DASH;bM DASH;aHORIZONTAL BAR
aDOUBLE VERTICAL LINE;hLOW LINE;aLEFT SINGLE QUOTATION MARK;aRIGHT SINGLE QUOTATION MARK
aSINGLE LOW-9 QUOTATION MARK;hHIGH-REVERSED-9 QUOTATION MARK;aLEFT DOUBLE QUOTATION MARK
aRIGHT DOUBLE QUOTATION MARK;aDOUBLE LOW-9 QUOTATION MARK;hHIGH-REVERSED-9 QUOTATION MARK;bAGGER
bOUBLE DAGGER;aBULLET;aTRIANGULAR BULLET;aONE DOT LEADER;aTWO DOT LEADER;aHORIZONTAL ELLIPSIS
bYPHENATION POINT;aLINE SEPARATOR;aPARAGRAPH SEPARATOR;aLEFT-TO-RIGHT EMBEDDING;0bRE
aRIGHT-TO-LEFT EMBEDDING;0bLE;aPDF;0bOP DIRECTIONAL FORMATTING;aLEFT-TO-RIGHT OVERRIDE;0bRO
aRIGHT-TO-LEFT OVERRIDE;0bLO;aNARROW NO-BREAK SPACE;0bNBSP;aPER MILLE SIGN;eTEN THOUSAND SIGN;bRIME
aDOUBLE PRIME;aTRIPLE PRIME;aREVERSED PRIME;jDOUBLE PRIME;jTRIPLE PRIME;aCARET
aSINGLE LEFT-POINTING ANGLE QUOTATION MARK;hRIGHT-POINTING ANGLE QUOTATION MARK;aREFERENCE MARK
aDOUBLE EXCLAMATION MARK;aINTERROBANG;aOVERLINE;aUNDERTIE;aCHARACTER TIE;bARET INSERTION POINT
aASTERISM;aHYPHEN BULLET;aFRACTION SLASH;aLEFT SQUARE BRACKET WITH QUILL
aRIGHT SQUARE BRACKET WITH QUILL;aDOUBLE QUESTION MARK;aQUESTION EXCLAMATION MARK
aEXCLAMATION QUESTION MARK;aTIRONIAN SIGN ET;aREVERSED PILCROW SIGN;aBLACK LEFTWARDS BULLET
gRIGHTWARDS BULLET;aLOW ASTERISK;aREVERSED SEMICOLON;aCLOSE UP;aTWO ASTERISKS ALIGNED VERTICALLY
aCOMMERCIAL MINUS SIGN;aSWUNG DASH;aINVERTED UNDERTIE;aFLOWER PUNCTUATION MARK
aTHREE DOT PUNCTUATION;aQUADRUPLE PRIME;aFOUR DOT PUNCTUATION;bIVE DOT PUNCTUATION
aTWO DOT PUNCTUATION;aFOUR DOT MARK;aDOTTED CROSS;aTRICOLON;aVERTICAL FOUR DOTS
aMEDIUM MATHEMATICAL SPACE;0bMSP;aWJ;0bORD JOINER;aFUNCTION APPLICATION;aINVISIBLE TIMES;kSEPARATOR
kPLUS;2aLEFT-TO-RIGHT ISOLATE;0bRI;aRIGHT-TO-LEFT ISOLATE;0bLI;aFIRST STRONG ISOLATE;0bSI;aPDI
0bOP DIRECTIONAL ISOLATE;aINHIBIT SYMMETRIC SWAPPING;aACTIVATE SYMMETRIC SWAPPING
aINHIBIT ARABIC FORM SHAPING;aACTIVATE ARABIC FORM SHAPING;aNATIONAL DIGIT SHAPES
bOMINAL DIGIT SHAPES;aSUPERSCRIPT ZERO;mLATIN SMALL LETTER I;3mFOUR;nIVE;mSIX;nEVEN;mEIGHT;mNINE
mPLUS SIGN;mMINUS;mEQUALS SIGN;mLEFT PARENTHESIS;mRIGHT PARENTHESIS;mLATIN SMALL LETTER N
cBSCRIPT ZERO;kONE;kTWO;lHREE;kFOUR;lIVE;kSIX;lEVEN;kEIGHT;kNINE;kPLUS SIGN;kMINUS;kEQUALS SIGN
kLEFT PARENTHESIS;kRIGHT PARENTHESIS;2aLATIN SUBSCRIPT SMALL LETTER A;zeE;zeO;zeX;zeSCHWA;zeH;zeK
zeL;zeM;zeN;zeP;zeS;zeT;4aEURO-CURRENCY SIGN;aCOLON SIGN;bRUZEIRO SIGN;aFRENCH FRANC SIGN
aLIRA SIGN;aMILL SIGN;aNAIRA SIGN;aPESETA SIGN;aRUPEE SIGN;aWON SIGN;aNEW SHEQEL SIGN;aDONG SIGN
aEURO SIGN;aKIP SIGN;aTUGRIK SIGN;aDRACHMA SIGN;aGERMAN PENNY SIGN;aPESO SIGN;aGUARANI SIGN
aAUSTRAL SIGN;aHRYVNIA SIGN;aCEDI SIGN;aLIVRE TOURNOIS SIGN;aSPESMILO SIGN;aTENGE SIGN
aINDIAN RUPEE SIGN;aTURKISH LIRA SIGN;aNORDIC MARK SIGN;aMANAT SIGN;aRUBLE SIGN;aLARI SIGN
aBITCOIN SIGN;aSOM SIGN;10aCOMBINING LEFT HARPOON ABOVE;kRIGHT HARPOON ABOVE
kLONG VERTICAL LINE OVERLAY;kSHORT VERTICAL LINE OVERLAY;kANTICLOCKWISE ARROW ABOVE
kCLOCKWISE ARROW ABOVE;kLEFT ARROW ABOVE;kRIGHT ARROW ABOVE;mNG OVERLAY;kCLOCKWISE RING OVERLAY
kANTICLOCKWISE RING OVERLAY;kTHREE DOTS ABOVE;kFOUR DOTS ABOVE;kENCLOSING CIRCLE;uSQUARE;uDIAMOND
uCIRCLE BACKSLASH;kLEFT RIGHT ARROW ABOVE;kENCLOSING SCREEN;uKEYCAP;uUPWARD POINTING TRIANGLE
kREVERSE SOLIDUS OVERLAY;kDOUBLE VERTICAL STROKE OVERLAY;kANNUITY SYMBOL;kTRIPLE UNDERDOT
kWIDE BRIDGE ABOVE;kLEFTWARDS ARROW OVERLAY;lONG DOUBLE SOLIDUS OVERLAY
kRIGHTWARDS HARPOON WITH BARB DOWNWARDS;kLEFTWARDS HARPOON WITH BARB DOWNWARDS;o ARROW BELOW
kRIGHT ARROW BELOW;kASTERISK ABOVE;10aACCOUNT OF;bDDRESSED TO THE SUBJECT;aDOUBLE-STRUCK CAPITAL C
bEGREE CELSIUS;aCENTRE LINE SYMBOL;bARE OF;cDA UNA;aEULER CONSTANT;aSCRUPLE;aDEGREE FAHRENHEIT
aSCRIPT SMALL G;hCAPITAL H;aBLACK-LETTER CAPITAL H;aDOUBLE-STRUCK CAPITAL H;aPLANCK CONSTANT
p OVER TWO PI;aSCRIPT CAPITAL I;aBLACK-LETTER CAPITAL I;aSCRIPT CAPITAL L;hSMALL L;aL B BAR SYMBOL
aDOUBLE-STRUCK CAPITAL N;aNUMERO SIGN;aSOUND RECORDING COPYRIGHT;bCRIPT CAPITAL P
0aWEIERSTRASS ELLIPTIC FUNCTION;aDOUBLE-STRUCK CAPITAL P;wQ;aSCRIPT CAPITAL R
aBLACK-LETTER CAPITAL R;aDOUBLE-STRUCK CAPITAL R;aPRESCRIPTION TAKE;aRESPONSE;aSERVICE MARK
aTELEPHONE SIGN;bRADE MARK SIGN;aVERSICLE;aDOUBLE-STRUCK CAPITAL Z;aOUNCE SIGN;bHM SIGN
aINVERTED OHM SIGN;aBLACK-LETTER CAPITAL Z;aTURNED GREEK SMALL LETTER IOTA;aKELVIN SIGN
aANGSTROM SIGN;aSCRIPT CAPITAL B;aBLACK-LETTER CAPITAL C;aESTIMATED SYMBOL;aSCRIPT SMALL E
hCAPITAL E;pF;aTURNED CAPITAL F;aSCRIPT CAPITAL M;hSMALL O;aALEF SYMBOL;aBET SYMBOL;aGIMEL SYMBOL
aDALET SYMBOL;aINFORMATION SOURCE;aROTATED CAPITAL Q;aFACSIMILE SIGN;aDOUBLE-STRUCK SMALL PI;uGAMMA
oCAPITAL GAMMA;wPI;oN-ARY SUMMATION;aTURNED SANS-SERIF CAPITAL G;zbL;aREVERSED SANS-SERIF CAPITAL L
aTURNED SANS-SERIF CAPITAL Y;aDOUBLE-STRUCK ITALIC CAPITAL D;vSMALL D;zcE;zcI;zcJ;aPROPERTY LINE
aTURNED AMPERSAND;aPER SIGN;aAKTIESELSKAB;aTURNED SMALL F;aSYMBOL FOR SAMARITAN SOURCE
aVULGAR FRACTION ONE SEVENTH;uNINTH;uTENTH;vHIRD;qTWO THIRDS;qONE FIFTH;qTWO FIFTHS;rHREE FIFTHS
qFOUR FIFTHS;qONE SIXTH;qFIVE SIXTHS;qONE EIGHTH;qTHREE EIGHTHS;qFIVE EIGHTHS;qSEVEN EIGHTHS
aFRACTION NUMERATOR ONE;aROMAN NUMERAL ONE;oTWO;pHREE;oFOUR;pIVE;oSIX;pEVEN;oEIGHT;oNINE;oTEN
oELEVEN;oTWELVE;oFIFTY;oONE HUNDRED;oFIVE HUNDRED;oONE THOUSAND;aSMALL ROMAN NUMERAL ONE;uTWO;vHREE
uFOUR;vIVE;uSIX;vEVEN;uEIGHT;uNINE;uTEN;uELEVEN;uTWELVE;uFIFTY;uONE HUNDRED;uFIVE HUNDRED
uONE THOUSAND;aROMAN NUMERAL ONE THOUSAND C D;oFIVE THOUSAND;oTEN THOUSAND;oREVERSED ONE HUNDRED
aLATIN SMALL LETTER REVERSED C;aROMAN NUMERAL SIX LATE FORM;oFIFTY EARLY FORM;uTHOUSAND
oONE HUNDRED THOUSAND;aVULGAR FRACTION ZERO THIRDS;aTURNED DIGIT TWO;oHREE;5aLEFTWARDS ARROW
aUPWARDS ARROW;aRIGHTWARDS ARROW;aDOWNWARDS ARROW;aLEFT RIGHT ARROW;aUP DOWN ARROW
aNORTH WEST ARROW;gEAST ARROW;aSOUTH EAST ARROW;gWEST ARROW;aLEFTWARDS ARROW WITH STROKE
aRIGHTWARDS ARROW WITH STROKE;aLEFTWARDS WAVE ARROW;aRIGHTWARDS WAVE ARROW
aLEFTWARDS TWO HEADED ARROW;aUPWARDS TWO HEADED ARROW;aRIGHTWARDS TWO HEADED ARROW
aDOWNWARDS TWO HEADED ARROW;aLEFTWARDS ARROW WITH TAIL;aRIGHTWARDS ARROW WITH TAIL
aLEFTWARDS ARROW FROM BAR;aUPWARDS ARROW FROM BAR;aRIGHTWARDS ARROW FROM BAR
aDOWNWARDS ARROW FROM BAR;aUP DOWN ARROW WITH BASE;aLEFTWARDS ARROW WITH HOOK
aRIGHTWARDS ARROW WITH HOOK;aLEFTWARDS ARROW WITH LOOP;aRIGHTWARDS ARROW WITH LOOP
aLEFT RIGHT WAVE ARROW;lARROW WITH STROKE;aDOWNWARDS ZIGZAG ARROW;aUPWARDS ARROW WITH TIP LEFTWARDS
xRIGHTWARDS;aDOWNWARDS ARROW WITH TIP LEFTWARDS;zaRIGHTWARDS
aRIGHTWARDS ARROW WITH CORNER DOWNWARDS;aDOWNWARDS ARROW WITH CORNER LEFTWARDS
aANTICLOCKWISE TOP SEMICIRCLE ARROW;aCLOCKWISE TOP SEMICIRCLE ARROW;aNORTH WEST ARROW TO LONG BAR
aLEFTWARDS ARROW TO BAR OVER RIGHTWARDS ARROW TO BAR;aANTICLOCKWISE OPEN CIRCLE ARROW
aCLOCKWISE OPEN CIRCLE ARROW;aLEFTWARDS HARPOON WITH BARB UPWARDS;zdDOWNWARDS
aUPWARDS HARPOON WITH BARB RIGHTWARDS;zbLEFTWARDS;aRIGHTWARDS HARPOON WITH BARB UPWARDS;zeDOWNWARDS
aDOWNWARDS HARPOON WITH BARB RIGHTWARDS;zdLEFTWARDS;aRIGHTWARDS ARROW OVER LEFTWARDS ARROW
aUPWARDS ARROW LEFTWARDS OF DOWNWARDS ARROW;aLEFTWARDS ARROW OVER RIGHTWARDS ARROW;kPAIRED ARROWS
aUPWARDS PAIRED ARROWS;aRIGHTWARDS PAIRED ARROWS;aDOWNWARDS PAIRED ARROWS
aLEFTWARDS HARPOON OVER RIGHTWARDS HARPOON;aRIGHTWARDS HARPOON OVER LEFTWARDS HARPOON
aLEFTWARDS DOUBLE ARROW WITH STROKE;e RIGHT DOUBLE ARROW WITH STROKE
aRIGHTWARDS DOUBLE ARROW WITH STROKE;aLEFTWARDS DOUBLE ARROW;aUPWARDS DOUBLE ARROW
aRIGHTWARDS DOUBLE ARROW;aDOWNWARDS DOUBLE ARROW;aLEFT RIGHT DOUBLE ARROW;aUP DOWN DOUBLE ARROW
aNORTH WEST DOUBLE ARROW;gEAST DOUBLE ARROW;aSOUTH EAST DOUBLE ARROW;gWEST DOUBLE ARROW
aLEFTWARDS TRIPLE ARROW;aRIGHTWARDS TRIPLE ARROW;aLEFTWARDS SQUIGGLE ARROW
aRIGHTWARDS SQUIGGLE ARROW;aUPWARDS ARROW WITH DOUBLE STROKE;aDOWNWARDS ARROW WITH DOUBLE STROKE
aLEFTWARDS DASHED ARROW;aUPWARDS DASHED ARROW;aRIGHTWARDS DASHED ARROW;aDOWNWARDS DASHED ARROW
aLEFTWARDS ARROW TO BAR;aRIGHTWARDS ARROW TO BAR;aLEFTWARDS WHITE ARROW;aUPWARDS WHITE ARROW
aRIGHTWARDS WHITE ARROW;aDOWNWARDS WHITE ARROW;aUPWARDS WHITE ARROW FROM BAR;uON PEDESTAL
zg WITH HORIZONTAL BAR;zmVERTICAL BAR;oDOUBLE ARROW;zb ON PEDESTAL
aRIGHTWARDS WHITE ARROW FROM WALL;aNORTH WEST ARROW TO CORNER;aSOUTH EAST ARROW TO CORNER
aUP DOWN WHITE ARROW;aRIGHT ARROW WITH SMALL CIRCLE;aDOWNWARDS ARROW LEFTWARDS OF UPWARDS ARROW
aTHREE RIGHTWARDS ARROWS;aLEFTWARDS ARROW WITH VERTICAL STROKE
aRIGHTWARDS ARROW WITH VERTICAL STROKE;aLEFT RIGHT ARROW WITH VERTICAL STROKE
eWARDS ARROW WITH DOUBLE VERTICAL STROKE;aRIGHTWARDS ARROW WITH DOUBLE VERTICAL STROKE
aLEFT RIGHT ARROW WITH DOUBLE VERTICAL STROKE;eWARDS OPEN-HEADED ARROW
aRIGHTWARDS OPEN-HEADED ARROW;aLEFT RIGHT OPEN-HEADED ARROW;aFOR ALL;aCOMPLEMENT
aPARTIAL DIFFERENTIAL;aTHERE EXISTS;gDOES NOT EXIST;aEMPTY SET;aINCREMENT;aNABLA;aELEMENT OF
aNOT AN ELEMENT OF;aSMALL ELEMENT OF;aCONTAINS AS MEMBER;aDOES NOT CONTAIN AS MEMBER
aSMALL CONTAINS AS MEMBER;aEND OF PROOF;aN-ARY PRODUCT;gCOPRODUCT;gSUMMATION;aMINUS SIGN
f-OR-PLUS SIGN;aDOT PLUS;bIVISION SLASH;aSET MINUS;aASTERISK OPERATOR;aRING OPERATOR
aBULLET OPERATOR;aSQUARE ROOT;aCUBE ROOT;aFOURTH ROOT;aPROPORTIONAL TO;aINFINITY;aRIGHT ANGLE
aANGLE;aMEASURED ANGLE;aSPHERICAL ANGLE;aDIVIDES;bOES NOT DIVIDE;aPARALLEL TO;aNOT PARALLEL TO
aLOGICAL AND;iOR;aINTERSECTION;aUNION;aINTEGRAL;aDOUBLE INTEGRAL;aTRIPLE INTEGRAL;aCONTOUR INTEGRAL
aSURFACE INTEGRAL;aVOLUME INTEGRAL;aCLOCKWISE INTEGRAL;kCONTOUR INTEGRAL
aANTICLOCKWISE CONTOUR INTEGRAL;aTHEREFORE;aBECAUSE;aRATIO;aPROPORTION;aDOT MINUS;aEXCESS
aGEOMETRIC PROPORTION;aHOMOTHETIC;aTILDE OPERATOR;aREVERSED TILDE;aINVERTED LAZY S;aSINE WAVE
aWREATH PRODUCT;aNOT TILDE;aMINUS TILDE;aASYMPTOTICALLY EQUAL TO;aNOT ASYMPTOTICALLY EQUAL TO
aAPPROXIMATELY EQUAL TO;oBUT NOT ACTUALLY EQUAL TO;aNEITHER APPROXIMATELY NOR ACTUALLY EQUAL TO
aALMOST EQUAL TO;aNOT ALMOST EQUAL TO;aALMOST EQUAL OR EQUAL TO;aTRIPLE TILDE;aALL EQUAL TO
aEQUIVALENT TO;aGEOMETRICALLY EQUIVALENT TO;aDIFFERENCE BETWEEN;aAPPROACHES THE LIMIT
aGEOMETRICALLY EQUAL TO;aAPPROXIMATELY EQUAL TO OR THE IMAGE OF;aIMAGE OF OR APPROXIMATELY EQUAL TO
aCOLON EQUALS;aEQUALS COLON;aRING IN EQUAL TO;fEQUAL TO;aCORRESPONDS TO;aESTIMATES;bQUIANGULAR TO
aSTAR EQUALS;aDELTA EQUAL TO;aEQUAL TO BY DEFINITION;aMEASURED BY;aQUESTIONED EQUAL TO
aNOT EQUAL TO;aIDENTICAL TO;aNOT IDENTICAL TO;aSTRICTLY EQUIVALENT TO;aLESS-THAN OR EQUAL TO
aGREATER-THAN OR EQUAL TO;aLESS-THAN OVER EQUAL TO;aGREATER-THAN OVER EQUAL TO
aLESS-THAN BUT NOT EQUAL TO;aGREATER-THAN BUT NOT EQUAL TO;aMUCH LESS-THAN;fGREATER-THAN;aBETWEEN
aNOT EQUIVALENT TO;eLESS-THAN;eGREATER-THAN;bEITHER LESS-THAN NOR EQUAL TO
iGREATER-THAN NOR EQUAL TO;aLESS-THAN OR EQUIVALENT TO;aGREATER-THAN OR EQUIVALENT TO
aNEITHER LESS-THAN NOR EQUIVALENT TO;iGREATER-THAN NOR EQUIVALENT TO;aLESS-THAN OR GREATER-THAN
aGREATER-THAN OR LESS-THAN;aNEITHER LESS-THAN NOR GREATER-THAN;iGREATER-THAN NOR LESS-THAN
aPRECEDES;aSUCCEEDS;aPRECEDES OR EQUAL TO;aSUCCEEDS OR EQUAL TO;aPRECEDES OR EQUIVALENT TO
aSUCCEEDS OR EQUIVALENT TO;aDOES NOT PRECEDE;jSUCCEED;aSUBSET OF;cPERSET OF;aNOT A SUBSET OF
iPERSET OF;aSUBSET OF OR EQUAL TO;cPERSET OF OR EQUAL TO;aNEITHER A SUBSET OF NOR EQUAL TO
mPERSET OF NOR EQUAL TO;aSUBSET OF WITH NOT EQUAL TO;cPERSET OF WITH NOT EQUAL TO;aMULTISET
i MULTIPLICATION;jUNION;aSQUARE IMAGE OF;hORIGINAL OF;hIMAGE OF OR EQUAL TO
hORIGINAL OF OR EQUAL TO;hCAP;iUP;aCIRCLED PLUS;iMINUS;iTIMES;iDIVISION SLASH;jOT OPERATOR
iRING OPERATOR;iASTERISK OPERATOR;iEQUALS;iDASH;aSQUARED PLUS;iMINUS;iTIMES;iDOT OPERATOR
aRIGHT TACK;aLEFT TACK;aDOWN TACK;aUP TACK;aASSERTION;aMODELS;aTRUE;aFORCES
aTRIPLE VERTICAL BAR RIGHT TURNSTILE;aDOUBLE VERTICAL BAR DOUBLE RIGHT TURNSTILE;cES NOT PROVE
aNOT TRUE;aDOES NOT FORCE;aNEGATED DOUBLE VERTICAL BAR DOUBLE RIGHT TURNSTILE
aPRECEDES UNDER RELATION;aSUCCEEDS UNDER RELATION;aNORMAL SUBGROUP OF;aCONTAINS AS NORMAL SUBGROUP
aNORMAL SUBGROUP OF OR EQUAL TO;aCONTAINS AS NORMAL SUBGROUP OR EQUAL TO;aORIGINAL OF;aIMAGE OF
aMULTIMAP;aHERMITIAN CONJUGATE MATRIX;aINTERCALATE;aXOR;aNAND;bOR;aRIGHT ANGLE WITH ARC;gTRIANGLE
aN-ARY LOGICAL AND;oOR;gINTERSECTION;gUNION;aDIAMOND OPERATOR;bOT OPERATOR;aSTAR OPERATOR
aDIVISION TIMES;aBOWTIE;aLEFT NORMAL FACTOR SEMIDIRECT PRODUCT
aRIGHT NORMAL FACTOR SEMIDIRECT PRODUCT;aLEFT SEMIDIRECT PRODUCT;aRIGHT SEMIDIRECT PRODUCT
bEVERSED TILDE EQUALS;aCURLY LOGICAL OR;oAND;aDOUBLE SUBSET;jPERSET;hINTERSECTION;hUNION;aPITCHFORK
aEQUAL AND PARALLEL TO;aLESS-THAN WITH DOT;aGREATER-THAN WITH DOT;aVERY MUCH LESS-THAN
kGREATER-THAN;aLESS-THAN EQUAL TO OR GREATER-THAN;aGREATER-THAN EQUAL TO OR LESS-THAN
aEQUAL TO OR LESS-THAN;mGREATER-THAN;mPRECEDES;mSUCCEEDS;aDOES NOT PRECEDE OR EQUAL
jSUCCEED OR EQUAL;aNOT SQUARE IMAGE OF OR EQUAL TO;lORIGINAL OF OR EQUAL TO
aSQUARE IMAGE OF OR NOT EQUAL TO;hORIGINAL OF OR NOT EQUAL TO;aLESS-THAN BUT NOT EQUIVALENT TO
aGREATER-THAN BUT NOT EQUIVALENT TO;aPRECEDES BUT NOT EQUIVALENT TO;aSUCCEEDS BUT NOT EQUIVALENT TO
aNOT NORMAL SUBGROUP OF;aDOES NOT CONTAIN AS NORMAL SUBGROUP;aNOT NORMAL SUBGROUP OF OR EQUAL TO
aDOES NOT CONTAIN AS NORMAL SUBGROUP OR EQUAL;aVERTICAL ELLIPSIS;aMIDLINE HORIZONTAL ELLIPSIS
aUP RIGHT DIAGONAL ELLIPSIS;aDOWN RIGHT DIAGONAL ELLIPSIS;aELEMENT OF WITH LONG HORIZONTAL STROKE
qVERTICAL BAR AT END OF HORIZONTAL STROKE
aSMALL ELEMENT OF WITH VERTICAL BAR AT END OF HORIZONTAL STROKE;aELEMENT OF WITH DOT ABOVE;qOVERBAR
aSMALL ELEMENT OF WITH OVERBAR;aELEMENT OF WITH UNDERBAR;qTWO HORIZONTAL STROKES
aCONTAINS WITH LONG HORIZONTAL STROKE;oVERTICAL BAR AT END OF HORIZONTAL STROKE
aSMALL CONTAINS WITH VERTICAL BAR AT END OF HORIZONTAL STROKE;aCONTAINS WITH OVERBAR
aSMALL CONTAINS WITH OVERBAR;aZ NOTATION BAG MEMBERSHIP;aDIAMETER SIGN;aELECTRIC ARROW;aHOUSE
aUP ARROWHEAD;aDOWN ARROWHEAD;aPROJECTIVE;bERSPECTIVE;aWAVY LINE;aLEFT CEILING;aRIGHT CEILING
aLEFT FLOOR;aRIGHT FLOOR;aBOTTOM RIGHT CROP;hLEFT CROP;aTOP RIGHT CROP;eLEFT CROP
aREVERSED NOT SIGN;aSQUARE LOZENGE;aARC;aSEGMENT;cCTOR;aTELEPHONE RECORDER;aPOSITION INDICATOR
aVIEWDATA SQUARE;aPLACE OF INTEREST SIGN;aTURNED NOT SIGN;aWATCH;aHOURGLASS;aTOP LEFT CORNER
eRIGHT CORNER;aBOTTOM LEFT CORNER;hRIGHT CORNER;aTOP HALF INTEGRAL;aBOTTOM HALF INTEGRAL;aFROWN
aSMILE;aUP ARROWHEAD BETWEEN TWO HORIZONTAL BARS;aOPTION KEY;aERASE TO THE RIGHT
aX IN A RECTANGLE BOX;aKEYBOARD;aLEFT-POINTING ANGLE BRACKET;aRIGHT-POINTING ANGLE BRACKET
aERASE TO THE LEFT;aBENZENE RING;aCYLINDRICITY;aALL AROUND-PROFILE;aSYMMETRY;aTOTAL RUNOUT
aDIMENSION ORIGIN;aCONICAL TAPER;aSLOPE;aCOUNTERBORE;hSINK;aAPL FUNCTIONAL SYMBOL I-BEAM
wSQUISH QUAD;wQUAD EQUAL;zcDIVIDE;zeAMOND;zcJOT;zcCIRCLE;wCIRCLE STILE;zeJOT;wSLASH BAR
wBACKSLASH BAR;wQUAD SLASH;zcBACKSLASH;zcLESS-THAN;zcGREATER-THAN;wLEFTWARDS VANE;wRIGHTWARDS VANE
wQUAD LEFTWARDS ARROW;zcRIGHTWARDS ARROW;wCIRCLE BACKSLASH;wDOWN TACK UNDERBAR;xELTA STILE
wQUAD DOWN CARET;zdELTA;wDOWN TACK JOT;wUPWARDS VANE;wQUAD UPWARDS ARROW;wUP TACK OVERBAR
wDEL STILE;wQUAD UP CARET;zcDEL;wUP TACK JOT;wDOWNWARDS VANE;wQUAD DOWNWARDS ARROW;yOTE UNDERBAR
wDELTA UNDERBAR;xIAMOND UNDERBAR;wJOT UNDERBAR;wCIRCLE UNDERBAR;wUP SHOE JOT;wQUOTE QUAD
wCIRCLE STAR;wQUAD COLON;wUP TACK DIAERESIS;wDEL DIAERESIS;wSTAR DIAERESIS;wJOT DIAERESIS
wCIRCLE DIAERESIS;wDOWN SHOE STILE;wLEFT SHOE STILE;wTILDE DIAERESIS;wGREATER-THAN DIAERESIS
wCOMMA BAR;wDEL TILDE;wZILDE;wSTILE TILDE;xEMICOLON UNDERBAR;wQUAD NOT EQUAL;zcQUESTION
wDOWN CARET TILDE;wUP CARET TILDE;wIOTA;wRHO;wOMEGA;wALPHA UNDERBAR;wEPSILON UNDERBAR
wIOTA UNDERBAR;wOMEGA UNDERBAR;wALPHA;aNOT CHECK MARK;aRIGHT ANGLE WITH DOWNWARDS ZIGZAG ARROW
aSHOULDERED OPEN BOX;aBELL SYMBOL;aVERTICAL LINE WITH MIDDLE DOT;aINSERTION SYMBOL
aCONTINUOUS UNDERLINE SYMBOL;aDISCONTINUOUS UNDERLINE SYMBOL;aEMPHASIS SYMBOL;aCOMPOSITION SYMBOL
aWHITE SQUARE WITH CENTRE VERTICAL LINE;aENTER SYMBOL;aALTERNATIVE KEY SYMBOL;aHELM SYMBOL
aCIRCLED HORIZONTAL BAR WITH NOTCH;iTRIANGLE DOWN;aBROKEN CIRCLE WITH NORTHWEST ARROW;aUNDO SYMBOL
aMONOSTABLE SYMBOL;aHYSTERESIS SYMBOL;aOPEN-CIRCUIT-OUTPUT H-TYPE SYMBOL;uL-TYPE SYMBOL
aPASSIVE-PULL-DOWN-OUTPUT SYMBOL;nUP-OUTPUT SYMBOL;aDIRECT CURRENT SYMBOL FORM TWO
aSOFTWARE-FUNCTION SYMBOL;aAPL FUNCTIONAL SYMBOL QUAD;aDECIMAL SEPARATOR KEY SYMBOL;aPREVIOUS PAGE
aNEXT PAGE;aPRINT SCREEN SYMBOL;aCLEAR SCREEN SYMBOL;aLEFT PARENTHESIS UPPER HOOK;rEXTENSION
rLOWER HOOK;aRIGHT PARENTHESIS UPPER HOOK;sEXTENSION;sLOWER HOOK;aLEFT SQUARE BRACKET UPPER CORNER
uEXTENSION;uLOWER CORNER;aRIGHT SQUARE BRACKET UPPER CORNER;vEXTENSION;vLOWER CORNER
aLEFT CURLY BRACKET UPPER HOOK;tMIDDLE PIECE;tLOWER HOOK;aCURLY BRACKET EXTENSION
aRIGHT CURLY BRACKET UPPER HOOK;uMIDDLE PIECE;uLOWER HOOK;aINTEGRAL EXTENSION
aHORIZONTAL LINE EXTENSION;aUPPER LEFT OR LOWER RIGHT CURLY BRACKET SECTION
gRIGHT OR LOWER LEFT CURLY BRACKET SECTION;aSUMMATION TOP;kBOTTOM;aTOP SQUARE BRACKET
aBOTTOM SQUARE BRACKET;v OVER TOP SQUARE BRACKET;aRADICAL SYMBOL BOTTOM;aLEFT VERTICAL BOX LINE
aRIGHT VERTICAL BOX LINE;aHORIZONTAL SCAN LINE-1;v3;v7;v9
aDENTISTRY SYMBOL LIGHT VERTICAL AND TOP RIGHT;zlBOTTOM RIGHT;zhWITH CIRCLE
xDOWN AND HORIZONTAL WITH CIRCLE;xUP AND HORIZONTAL WITH CIRCLE;xVERTICAL WITH TRIANGLE
xDOWN AND HORIZONTAL WITH TRIANGLE;xUP AND HORIZONTAL WITH TRIANGLE;xVERTICAL AND WAVE
xDOWN AND HORIZONTAL WITH WAVE;xUP AND HORIZONTAL WITH WAVE;xDOWN AND HORIZONTAL;xUP AND HORIZONTAL
xVERTICAL AND TOP LEFT;zlBOTTOM LEFT;aSQUARE FOOT;aRETURN SYMBOL;aEJECT SYMBOL
aVERTICAL LINE EXTENSION;aMETRICAL BREVE;jLONG OVER SHORT;jSHORT OVER LONG;jLONG OVER TWO SHORTS
jTWO SHORTS OVER LONG;uJOINED;kRISEME;kETRASEME;jPENTASEME;aEARTH GROUND;aFUSE;aTOP PARENTHESIS
aBOTTOM PARENTHESIS;aTOP CURLY BRACKET;aBOTTOM CURLY BRACKET;aTOP TORTOISE SHELL BRACKET
aBOTTOM TORTOISE SHELL BRACKET;aWHITE TRAPEZIUM;aBENZENE RING WITH CIRCLE;aSTRAIGHTNESS;aFLATNESS
aAC CURRENT;aELECTRICAL INTERSECTION;aDECIMAL EXPONENT SYMBOL;aBLACK RIGHT-POINTING DOUBLE TRIANGLE
gLEFT-POINTING DOUBLE TRIANGLE;gUP-POINTING DOUBLE TRIANGLE;gDOWN-POINTING DOUBLE TRIANGLE
gRIGHT-POINTING DOUBLE TRIANGLE WITH VERTICAL BAR;gLEFT-POINTING DOUBLE TRIANGLE WITH VERTICAL BAR
gRIGHT-POINTING TRIANGLE WITH DOUBLE VERTICAL BAR;aALARM CLOCK;aSTOPWATCH;aTIMER CLOCK
aHOURGLASS WITH FLOWING SAND;aBLACK MEDIUM LEFT-POINTING TRIANGLE;nRIGHT-POINTING TRIANGLE
nUP-POINTING TRIANGLE;nDOWN-POINTING TRIANGLE;aDOUBLE VERTICAL BAR;aBLACK SQUARE FOR STOP
gCIRCLE FOR RECORD;aPOWER SYMBOL;gON-OFF SYMBOL;i SYMBOL;gSLEEP SYMBOL;aOBSERVER EYE SYMBOL
aSYMBOL FOR NULL;lSTART OF HEADING;uTEXT;lEND OF TEXT;tRANSMISSION;nQUIRY;lACKNOWLEDGE;lBELL
mACKSPACE;lHORIZONTAL TABULATION;lLINE FEED;lVERTICAL TABULATION;lFORM FEED;lCARRIAGE RETURN
lSHIFT OUT;rIN;lDATA LINK ESCAPE;mEVICE CONTROL ONE;zbTWO;zcHREE;zbFOUR;lNEGATIVE ACKNOWLEDGE
lSYNCHRONOUS IDLE;lEND OF TRANSMISSION BLOCK;lCANCEL;lEND OF MEDIUM;lSUBSTITUTE;lESCAPE
lFILE SEPARATOR;lGROUP SEPARATOR;lRECORD SEPARATOR;lUNIT SEPARATOR;lSPACE;lDELETE;aBLANK SYMBOL
aOPEN BOX;aSYMBOL FOR NEWLINE;lDELETE FORM TWO;lSUBSTITUTE FORM TWO;1AaOCR HOOK;eCHAIR;eFORK
eINVERTED FORK;eBELT BUCKLE;fOW TIE;fRANCH BANK IDENTIFICATION;eAMOUNT OF CHECK;aMICR ON US SYMBOL
0aOCR DASH;aMICR DASH SYMBOL;0aOCR CUSTOMER ACCOUNT NUMBER;eDOUBLE BACKSLASH;16aCIRCLED DIGIT ONE
oTWO;pHREE;oFOUR;pIVE;oSIX;pEVEN;oEIGHT;oNINE;iNUMBER TEN;pELEVEN;pTWELVE;qHIRTEEN;pFOURTEEN
qIFTEEN;pSIXTEEN;qEVENTEEN;pEIGHTEEN;pNINETEEN;pTWENTY;aPARENTHESIZED DIGIT ONE;uTWO;vHREE;uFOUR
vIVE;uSIX;vEVEN;uEIGHT;uNINE;oNUMBER TEN;vELEVEN;vTWELVE;wHIRTEEN;vFOURTEEN;wIFTEEN;vSIXTEEN
wEVENTEEN;vEIGHTEEN;vNINETEEN;vTWENTY;aDIGIT ONE FULL STOP;gTWO FULL STOP;hHREE FULL STOP
gFOUR FULL STOP;hIVE FULL STOP;gSIX FULL STOP;hEVEN FULL STOP;gEIGHT FULL STOP;gNINE FULL STOP
aNUMBER TEN FULL STOP;hELEVEN FULL STOP;hTWELVE FULL STOP;iHIRTEEN FULL STOP;hFOURTEEN FULL STOP
iIFTEEN FULL STOP;hSIXTEEN FULL STOP;iEVENTEEN FULL STOP;hEIGHTEEN FULL STOP;hNINETEEN FULL STOP
hTWENTY FULL STOP;aPARENTHESIZED LATIN SMALL LETTER A;ziB;ziC;ziD;ziE;ziF;ziG;ziH;ziI;ziJ;ziK;ziL
ziM;ziN;ziO;ziP;ziQ;ziR;ziS;ziT;ziU;ziV;ziW;ziX;ziY;ziZ;aCIRCLED LATIN CAPITAL LETTER A;zeB;zeC;zeD
zeE;zeF;zeG;zeH;zeI;zeJ;zeK;zeL;zeM;zeN;zeO;zeP;zeQ;zeR;zeS;zeT;zeU;zeV;zeW;zeX;zeY;zeZ
oSMALL LETTER A;zcB;zcC;zcD;zcE;zcF;zcG;zcH;zcI;zcJ;zcK;zcL;zcM;zcN;zcO;zcP;zcQ;zcR;zcS;zcT;zcU;zcV
zcW;zcX;zcY;zcZ;iDIGIT ZERO;aNEGATIVE CIRCLED NUMBER ELEVEN;yTWELVE;zaHIRTEEN;yFOURTEEN;zaIFTEEN
ySIXTEEN;zaEVENTEEN;yEIGHTEEN;yNINETEEN;yTWENTY;aDOUBLE CIRCLED DIGIT ONE;vTWO;wHREE;vFOUR;wIVE
vSIX;wEVEN;vEIGHT;vNINE;pNUMBER TEN;aNEGATIVE CIRCLED DIGIT ZERO;aBOX DRAWINGS LIGHT HORIZONTAL
nHEAVY HORIZONTAL;nLIGHT VERTICAL;nHEAVY VERTICAL;nLIGHT TRIPLE DASH HORIZONTAL
nHEAVY TRIPLE DASH HORIZONTAL;nLIGHT TRIPLE DASH VERTICAL;nHEAVY TRIPLE DASH VERTICAL
nLIGHT QUADRUPLE DASH HORIZONTAL;nHEAVY QUADRUPLE DASH HORIZONTAL;nLIGHT QUADRUPLE DASH VERTICAL
nHEAVY QUADRUPLE DASH VERTICAL;nLIGHT DOWN AND RIGHT;nDOWN LIGHT AND RIGHT HEAVY
sHEAVY AND RIGHT LIGHT;nHEAVY DOWN AND RIGHT;nLIGHT DOWN AND LEFT;nDOWN LIGHT AND LEFT HEAVY
sHEAVY AND LEFT LIGHT;nHEAVY DOWN AND LEFT;nLIGHT UP AND RIGHT;nUP LIGHT AND RIGHT HEAVY
qHEAVY AND RIGHT LIGHT;nHEAVY UP AND RIGHT;nLIGHT UP AND LEFT;nUP LIGHT AND LEFT HEAVY
qHEAVY AND LEFT LIGHT;nHEAVY UP AND LEFT;nLIGHT VERTICAL AND RIGHT;nVERTICAL LIGHT AND RIGHT HEAVY
nUP HEAVY AND RIGHT DOWN LIGHT;nDOWN HEAVY AND RIGHT UP LIGHT;nVERTICAL HEAVY AND RIGHT LIGHT
nDOWN LIGHT AND RIGHT UP HEAVY;nUP LIGHT AND RIGHT DOWN HEAVY;nHEAVY VERTICAL AND RIGHT
nLIGHT VERTICAL AND LEFT;nVERTICAL LIGHT AND LEFT HEAVY;nUP HEAVY AND LEFT DOWN LIGHT
nDOWN HEAVY AND LEFT UP LIGHT;nVERTICAL HEAVY AND LEFT LIGHT;nDOWN LIGHT AND LEFT UP HEAVY
nUP LIGHT AND LEFT DOWN HEAVY;nHEAVY VERTICAL AND LEFT;nLIGHT DOWN AND HORIZONTAL
oEFT HEAVY AND RIGHT DOWN LIGHT;nRIGHT HEAVY AND LEFT DOWN LIGHT;nDOWN LIGHT AND HORIZONTAL HEAVY
sHEAVY AND HORIZONTAL LIGHT;nRIGHT LIGHT AND LEFT DOWN HEAVY;nLEFT LIGHT AND RIGHT DOWN HEAVY
nHEAVY DOWN AND HORIZONTAL;nLIGHT UP AND HORIZONTAL;oEFT HEAVY AND RIGHT UP LIGHT
nRIGHT HEAVY AND LEFT UP LIGHT;nUP LIGHT AND HORIZONTAL HEAVY;qHEAVY AND HORIZONTAL LIGHT
nRIGHT LIGHT AND LEFT UP HEAVY;nLEFT LIGHT AND RIGHT UP HEAVY;nHEAVY UP AND HORIZONTAL
nLIGHT VERTICAL AND HORIZONTAL;oEFT HEAVY AND RIGHT VERTICAL LIGHT
nRIGHT HEAVY AND LEFT VERTICAL LIGHT;nVERTICAL LIGHT AND HORIZONTAL HEAVY
nUP HEAVY AND DOWN HORIZONTAL LIGHT;nDOWN HEAVY AND UP HORIZONTAL LIGHT
nVERTICAL HEAVY AND HORIZONTAL LIGHT;nLEFT UP HEAVY AND RIGHT DOWN LIGHT
nRIGHT UP HEAVY AND LEFT DOWN LIGHT;nLEFT DOWN HEAVY AND RIGHT UP LIGHT
nRIGHT DOWN HEAVY AND LEFT UP LIGHT;nDOWN LIGHT AND UP HORIZONTAL HEAVY
nUP LIGHT AND DOWN HORIZONTAL HEAVY;nRIGHT LIGHT AND LEFT VERTICAL HEAVY
nLEFT LIGHT AND RIGHT VERTICAL HEAVY;nHEAVY VERTICAL AND HORIZONTAL;nLIGHT DOUBLE DASH HORIZONTAL
nHEAVY DOUBLE DASH HORIZONTAL;nLIGHT DOUBLE DASH VERTICAL;nHEAVY DOUBLE DASH VERTICAL
nDOUBLE HORIZONTAL;uVERTICAL;pWN SINGLE AND RIGHT DOUBLE;sDOUBLE AND RIGHT SINGLE
pUBLE DOWN AND RIGHT;pWN SINGLE AND LEFT DOUBLE;sDOUBLE AND LEFT SINGLE;pUBLE DOWN AND LEFT
nUP SINGLE AND RIGHT DOUBLE;qDOUBLE AND RIGHT SINGLE;nDOUBLE UP AND RIGHT
nUP SINGLE AND LEFT DOUBLE;qDOUBLE AND LEFT SINGLE;nDOUBLE UP AND LEFT
nVERTICAL SINGLE AND RIGHT DOUBLE;wDOUBLE AND RIGHT SINGLE;nDOUBLE VERTICAL AND RIGHT
nVERTICAL SINGLE AND LEFT DOUBLE;wDOUBLE AND LEFT SINGLE;nDOUBLE VERTICAL AND LEFT
pWN SINGLE AND HORIZONTAL DOUBLE;sDOUBLE AND HORIZONTAL SINGLE;pUBLE DOWN AND HORIZONTAL
nUP SINGLE AND HORIZONTAL DOUBLE;qDOUBLE AND HORIZONTAL SINGLE;nDOUBLE UP AND HORIZONTAL
nVERTICAL SINGLE AND HORIZONTAL DOUBLE;wDOUBLE AND HORIZONTAL SINGLE
nDOUBLE VERTICAL AND HORIZONTAL;nLIGHT ARC DOWN AND RIGHT;zhLEFT;xUP AND LEFT;zfRIGHT
tDIAGONAL UPPER RIGHT TO LOWER LEFT;zjLEFT TO LOWER RIGHT;zdCROSS;tLEFT;tUP;tRIGHT;tDOWN
nHEAVY LEFT;tUP;tRIGHT;tDOWN;nLIGHT LEFT AND HEAVY RIGHT;tUP AND HEAVY DOWN
nHEAVY LEFT AND LIGHT RIGHT;tUP AND LIGHT DOWN;aUPPER HALF BLOCK;aLOWER ONE EIGHTH BLOCK
kQUARTER BLOCK;gTHREE EIGHTHS BLOCK;gHALF BLOCK;gFIVE EIGHTHS BLOCK;gTHREE QUARTERS BLOCK
gSEVEN EIGHTHS BLOCK;aFULL BLOCK;aLEFT SEVEN EIGHTHS BLOCK;fTHREE QUARTERS BLOCK
fFIVE EIGHTHS BLOCK;fHALF BLOCK;fTHREE EIGHTHS BLOCK;fONE QUARTER BLOCK;jEIGHTH BLOCK
aRIGHT HALF BLOCK;aLIGHT SHADE;aMEDIUM SHADE;aDARK SHADE;aUPPER ONE EIGHTH BLOCK
aRIGHT ONE EIGHTH BLOCK;aQUADRANT LOWER LEFT;pRIGHT;jUPPER LEFT;t AND LOWER LEFT AND LOWER RIGHT
zfRIGHT;yUPPER RIGHT AND LOWER LEFT;zvRIGHT;pRIGHT;u AND LOWER LEFT;zk AND LOWER RIGHT
aBLACK SQUARE;aWHITE SQUARE;m WITH ROUNDED CORNERS;nCONTAINING BLACK SMALL SQUARE
aSQUARE WITH HORIZONTAL FILL;mVERTICAL FILL;mORTHOGONAL CROSSHATCH FILL
mUPPER LEFT TO LOWER RIGHT FILL;sRIGHT TO LOWER LEFT FILL;mDIAGONAL CROSSHATCH FILL
aBLACK SMALL SQUARE;aWHITE SMALL SQUARE;aBLACK RECTANGLE;aWHITE RECTANGLE;aBLACK VERTICAL RECTANGLE
aWHITE VERTICAL RECTANGLE;aBLACK PARALLELOGRAM;aWHITE PARALLELOGRAM;aBLACK UP-POINTING TRIANGLE
aWHITE UP-POINTING TRIANGLE;aBLACK UP-POINTING SMALL TRIANGLE;aWHITE UP-POINTING SMALL TRIANGLE
aBLACK RIGHT-POINTING TRIANGLE;aWHITE RIGHT-POINTING TRIANGLE;aBLACK RIGHT-POINTING SMALL TRIANGLE
aWHITE RIGHT-POINTING SMALL TRIANGLE;aBLACK RIGHT-POINTING POINTER;aWHITE RIGHT-POINTING POINTER
aBLACK DOWN-POINTING TRIANGLE;aWHITE DOWN-POINTING TRIANGLE;aBLACK DOWN-POINTING SMALL TRIANGLE
aWHITE DOWN-POINTING SMALL TRIANGLE;aBLACK LEFT-POINTING TRIANGLE;aWHITE LEFT-POINTING TRIANGLE
aBLACK LEFT-POINTING SMALL TRIANGLE;aWHITE LEFT-POINTING SMALL TRIANGLE
aBLACK LEFT-POINTING POINTER;aWHITE LEFT-POINTING POINTER;aBLACK DIAMOND;aWHITE DIAMOND
n CONTAINING BLACK SMALL DIAMOND;aFISHEYE;aLOZENGE;aWHITE CIRCLE;aDOTTED CIRCLE
aCIRCLE WITH VERTICAL FILL;aBULLSEYE;bLACK CIRCLE;aCIRCLE WITH LEFT HALF BLACK;mRIGHT HALF BLACK
mLOWER HALF BLACK;mUPPER HALF BLACK;sRIGHT QUADRANT BLACK;mALL BUT UPPER LEFT QUADRANT BLACK
aLEFT HALF BLACK CIRCLE;aRIGHT HALF BLACK CIRCLE;aINVERSE BULLET;iWHITE CIRCLE
aUPPER HALF INVERSE WHITE CIRCLE;aLOWER HALF INVERSE WHITE CIRCLE;aUPPER LEFT QUADRANT CIRCULAR ARC
gRIGHT QUADRANT CIRCULAR ARC;aLOWER RIGHT QUADRANT CIRCULAR ARC;gLEFT QUADRANT CIRCULAR ARC
aUPPER HALF CIRCLE;aLOWER HALF CIRCLE;aBLACK LOWER RIGHT TRIANGLE;mLEFT TRIANGLE
gUPPER LEFT TRIANGLE;mRIGHT TRIANGLE;aWHITE BULLET;aSQUARE WITH LEFT HALF BLACK;mRIGHT HALF BLACK
mUPPER LEFT DIAGONAL HALF BLACK;mLOWER RIGHT DIAGONAL HALF BLACK
aWHITE SQUARE WITH VERTICAL BISECTING LINE;gUP-POINTING TRIANGLE WITH DOT
aUP-POINTING TRIANGLE WITH LEFT HALF BLACK;zbRIGHT HALF BLACK;aLARGE CIRCLE
aWHITE SQUARE WITH UPPER LEFT QUADRANT;sLOWER LEFT QUADRANT;yRIGHT QUADRANT;sUPPER RIGHT QUADRANT
gCIRCLE WITH UPPER LEFT QUADRANT;sLOWER LEFT QUADRANT;yRIGHT QUADRANT;sUPPER RIGHT QUADRANT
aUPPER LEFT TRIANGLE;gRIGHT TRIANGLE;aLOWER LEFT TRIANGLE;aWHITE MEDIUM SQUARE;aBLACK MEDIUM SQUARE
aWHITE MEDIUM SMALL SQUARE;aBLACK MEDIUM SMALL SQUARE;aLOWER RIGHT TRIANGLE;aBLACK SUN WITH RAYS
aCLOUD;aUMBRELLA;aSNOWMAN;aCOMET;aBLACK STAR;aWHITE STAR;aLIGHTNING;aTHUNDERSTORM;aSUN
aASCENDING NODE;aDESCENDING NODE;aCONJUNCTION;aOPPOSITION;aBLACK TELEPHONE;aWHITE TELEPHONE
aBALLOT BOX;k WITH CHECK;qX;aSALTIRE;aUMBRELLA WITH RAIN DROPS;aHOT BEVERAGE;aWHITE SHOGI PIECE
aBLACK SHOGI PIECE;aSHAMROCK;aREVERSED ROTATED FLORAL HEART BULLET;aBLACK LEFT POINTING INDEX
gRIGHT POINTING INDEX;aWHITE LEFT POINTING INDEX;gUP POINTING INDEX;gRIGHT POINTING INDEX
gDOWN POINTING INDEX;aSKULL AND CROSSBONES;aCAUTION SIGN;aRADIOACTIVE SIGN;aBIOHAZARD SIGN
aCADUCEUS;aANKH;aORTHODOX CROSS;aCHI RHO;bROSS OF LORRAINE;jJERUSALEM;aSTAR AND CRESCENT
aFARSI SYMBOL;aADI SHAKTI;aHAMMER AND SICKLE;aPEACE SYMBOL;aYIN YANG;aTRIGRAM FOR HEAVEN;mLAKE
mFIRE;mTHUNDER;mWIND;nATER;mMOUNTAIN;mEARTH;aWHEEL OF DHARMA;cITE FROWNING FACE;gSMILING FACE
aBLACK SMILING FACE;aWHITE SUN WITH RAYS;aFIRST QUARTER MOON;aLAST QUARTER MOON;aMERCURY
aFEMALE SIGN;aEARTH;aMALE SIGN;aJUPITER;aSATURN;aURANUS;aNEPTUNE;aPLUTO;aARIES;aTAURUS;aGEMINI
aCANCER;aLEO;aVIRGO;aLIBRA;aSCORPIUS;bAGITTARIUS;aCAPRICORN;aAQUARIUS;aPISCES;aWHITE CHESS KING
mQUEEN;mROOK;mBISHOP;mKNIGHT;mPAWN;aBLACK CHESS KING;mQUEEN;mROOK;mBISHOP;mKNIGHT;mPAWN;gSPADE SUIT
aWHITE HEART SUIT;gDIAMOND SUIT;aBLACK CLUB SUIT;aWHITE SPADE SUIT;aBLACK HEART SUIT;gDIAMOND SUIT
aWHITE CLUB SUIT;aHOT SPRINGS;aQUARTER NOTE;aEIGHTH NOTE;aBEAMED EIGHTH NOTES;hSIXTEENTH NOTES
aMUSIC FLAT SIGN;gNATURAL SIGN;gSHARP SIGN;aWEST SYRIAC CROSS;aEAST SYRIAC CROSS
aUNIVERSAL RECYCLING SYMBOL;aRECYCLING SYMBOL FOR TYPE-1 PLASTICS;zb2 PLASTICS;zb3 PLASTICS
zb4 PLASTICS;zb5 PLASTICS;zb6 PLASTICS;zb7 PLASTICS;vGENERIC MATERIALS
aBLACK UNIVERSAL RECYCLING SYMBOL;aRECYCLED PAPER SYMBOL;aPARTIALLY-RECYCLED PAPER SYMBOL
bERMANENT PAPER SIGN;aWHEELCHAIR SYMBOL;aDIE FACE-1;j2;j3;j4;j5;j6;aWHITE CIRCLE WITH DOT RIGHT
sTWO DOTS;aBLACK CIRCLE WITH WHITE DOT RIGHT;sTWO WHITE DOTS;aMONOGRAM FOR YANG;oIN
aDIGRAM FOR GREATER YANG;lLESSER YIN;tANG;lGREATER YIN;aWHITE FLAG;aBLACK FLAG;aHAMMER AND PICK
aANCHOR;aCROSSED SWORDS;aSTAFF OF AESCULAPIUS;bCALES;aALEMBIC;aFLOWER;aGEAR;aSTAFF OF HERMES
aATOM SYMBOL;aFLEUR-DE-LIS;aOUTLINED WHITE STAR;aTHREE LINES CONVERGING RIGHT;xLEFT;aWARNING SIGN
aHIGH VOLTAGE SIGN;aDOUBLED FEMALE SIGN;iMALE SIGN;aINTERLOCKED FEMALE AND MALE SIGN
aMALE AND FEMALE SIGN;fWITH STROKE SIGN;rAND MALE AND FEMALE SIGN;aVERTICAL MALE WITH STROKE SIGN
aHORIZONTAL MALE WITH STROKE SIGN;aMEDIUM WHITE CIRCLE;hBLACK CIRCLE;hSMALL WHITE CIRCLE
bARRIAGE SYMBOL;aDIVORCE SYMBOL;aUNMARRIED PARTNERSHIP SYMBOL;aCOFFIN;aFUNERAL URN;aNEUTER;aCERES
aPALLAS;aJUNO;aVESTA;aCHIRON;aBLACK MOON LILITH;aSEXTILE;cMISEXTILE;aQUINCUNX;aSESQUIQUADRATE
bOCCER BALL;aBASEBALL;aSQUARED KEY;aWHITE DRAUGHTS MAN;pKING;aBLACK DRAUGHTS MAN;pKING
aSNOWMAN WITHOUT SNOW;bUN BEHIND CLOUD;aRAIN;aBLACK SNOWMAN;aTHUNDER CLOUD AND RAIN
bURNED WHITE SHOGI PIECE;hBLACK SHOGI PIECE;aWHITE DIAMOND IN SQUARE;aCROSSING LANES;aDISABLED CAR
aOPHIUCHUS;aPICK;aCAR SLIDING;aHELMET WITH WHITE CROSS;aCIRCLED CROSSING LANES;bHAINS;aNO ENTRY
aALTERNATE ONE-WAY LEFT WAY TRAFFIC;aBLACK TWO-WAY LEFT WAY TRAFFIC;aWHITE TWO-WAY LEFT WAY TRAFFIC
aBLACK LEFT LANE MERGE;aWHITE LEFT LANE MERGE;aDRIVE SLOW SIGN;aHEAVY WHITE DOWN-POINTING TRIANGLE
aLEFT CLOSED ENTRY;aSQUARED SALTIRE;aFALLING DIAGONAL IN WHITE CIRCLE IN BLACK SQUARE;aBLACK TRUCK
aRESTRICTED LEFT ENTRY-1;w2;aASTRONOMICAL SYMBOL FOR URANUS
aHEAVY CIRCLE WITH STROKE AND TWO DOTS ABOVE;aPENTAGRAM;aRIGHT-HANDED INTERLACED PENTAGRAM
aLEFT-HANDED INTERLACED PENTAGRAM;aINVERTED PENTAGRAM;aBLACK CROSS ON SHIELD;aSHINTO SHRINE;aCHURCH
bASTLE;aHISTORIC SITE;aGEAR WITHOUT HUB;j HANDLES;aMAP SYMBOL FOR LIGHTHOUSE;bOUNTAIN
aUMBRELLA ON GROUND;aFOUNTAIN;bLAG IN HOLE;bERRY;aSAILBOAT;bQUARE FOUR CORNERS;bKIER;aICE SKATE
aPERSON WITH BALL;aTENT;aJAPANESE BANK SYMBOL;aHEADSTONE GRAVEYARD SYMBOL;aFUEL PUMP
aCUP ON BLACK SQUARE;aWHITE FLAG WITH HORIZONTAL MIDDLE BLACK STRIPE;aBLACK SAFETY SCISSORS
aUPPER BLADE SCISSORS;aBLACK SCISSORS;aLOWER BLADE SCISSORS;aWHITE SCISSORS;gHEAVY CHECK MARK
aTELEPHONE LOCATION SIGN;bAPE DRIVE;aAIRPLANE;aENVELOPE;aRAISED FIST;hHAND;aVICTORY HAND
aWRITING HAND;aLOWER RIGHT PENCIL;aPENCIL;aUPPER RIGHT PENCIL;aWHITE NIB;aBLACK NIB;aCHECK MARK
aHEAVY CHECK MARK;aMULTIPLICATION X;aHEAVY MULTIPLICATION X;aBALLOT X;aHEAVY BALLOT X
aOUTLINED GREEK CROSS;aHEAVY GREEK CROSS;aOPEN CENTRE CROSS;aHEAVY OPEN CENTRE CROSS;aLATIN CROSS
aSHADOWED WHITE LATIN CROSS;aOUTLINED LATIN CROSS;aMALTESE CROSS;aSTAR OF DAVID
aFOUR TEARDROP-SPOKED ASTERISK;fBALLOON-SPOKED ASTERISK;aHEAVY FOUR BALLOON-SPOKED ASTERISK
aFOUR CLUB-SPOKED ASTERISK;aBLACK FOUR POINTED STAR;aWHITE FOUR POINTED STAR;aSPARKLES
bTRESS OUTLINED WHITE STAR;aCIRCLED WHITE STAR;aOPEN CENTRE BLACK STAR;aBLACK CENTRE WHITE STAR
aOUTLINED BLACK STAR;aHEAVY OUTLINED BLACK STAR;aPINWHEEL STAR;aSHADOWED WHITE STAR;aHEAVY ASTERISK
aOPEN CENTRE ASTERISK;aEIGHT SPOKED ASTERISK;gPOINTED BLACK STAR;oPINWHEEL STAR
aSIX POINTED BLACK STAR;aEIGHT POINTED RECTILINEAR BLACK STAR
aHEAVY EIGHT POINTED RECTILINEAR BLACK STAR;aTWELVE POINTED BLACK STAR;aSIXTEEN POINTED ASTERISK
aTEARDROP-SPOKED ASTERISK;aOPEN CENTRE TEARDROP-SPOKED ASTERISK;aHEAVY TEARDROP-SPOKED ASTERISK
aSIX PETALLED BLACK AND WHITE FLORETTE;aBLACK FLORETTE;aWHITE FLORETTE
aEIGHT PETALLED OUTLINED BLACK FLORETTE;aCIRCLED OPEN CENTRE EIGHT POINTED STAR
aHEAVY TEARDROP-SPOKED PINWHEEL ASTERISK;aSNOWFLAKE;aTIGHT TRIFOLIATE SNOWFLAKE
aHEAVY CHEVRON SNOWFLAKE;aSPARKLE;aHEAVY SPARKLE;aBALLOON-SPOKED ASTERISK
aEIGHT TEARDROP-SPOKED PROPELLER ASTERISK;aHEAVY EIGHT TEARDROP-SPOKED PROPELLER ASTERISK
aCROSS MARK;aSHADOWED WHITE CIRCLE;aNEGATIVE SQUARED CROSS MARK
aLOWER RIGHT DROP-SHADOWED WHITE SQUARE;aUPPER RIGHT DROP-SHADOWED WHITE SQUARE
aLOWER RIGHT SHADOWED WHITE SQUARE;aUPPER RIGHT SHADOWED WHITE SQUARE;aBLACK QUESTION MARK ORNAMENT
aWHITE QUESTION MARK ORNAMENT;gEXCLAMATION MARK ORNAMENT;aBLACK DIAMOND MINUS WHITE X
aHEAVY EXCLAMATION MARK SYMBOL;aLIGHT VERTICAL BAR;aMEDIUM VERTICAL BAR;aHEAVY VERTICAL BAR
gSINGLE TURNED COMMA QUOTATION MARK ORNAMENT;nCOMMA QUOTATION MARK ORNAMENT
gDOUBLE TURNED COMMA QUOTATION MARK ORNAMENT;nCOMMA QUOTATION MARK ORNAMENT
gLOW SINGLE COMMA QUOTATION MARK ORNAMENT;kDOUBLE COMMA QUOTATION MARK ORNAMENT
aCURVED STEM PARAGRAPH SIGN ORNAMENT;aHEAVY EXCLAMATION MARK ORNAMENT
gHEART EXCLAMATION MARK ORNAMENT;gBLACK HEART;aROTATED HEAVY BLACK HEART BULLET;aFLORAL HEART
aROTATED FLORAL HEART BULLET;aMEDIUM LEFT PARENTHESIS ORNAMENT;hRIGHT PARENTHESIS ORNAMENT
hFLATTENED LEFT PARENTHESIS ORNAMENT;rRIGHT PARENTHESIS ORNAMENT
hLEFT-POINTING ANGLE BRACKET ORNAMENT;hRIGHT-POINTING ANGLE BRACKET ORNAMENT
aHEAVY LEFT-POINTING ANGLE QUOTATION MARK ORNAMENT;gRIGHT-POINTING ANGLE QUOTATION MARK ORNAMENT
gLEFT-POINTING ANGLE BRACKET ORNAMENT;gRIGHT-POINTING ANGLE BRACKET ORNAMENT
aLIGHT LEFT TORTOISE SHELL BRACKET ORNAMENT;gRIGHT TORTOISE SHELL BRACKET ORNAMENT
aMEDIUM LEFT CURLY BRACKET ORNAMENT;hRIGHT CURLY BRACKET ORNAMENT
aDINGBAT NEGATIVE CIRCLED DIGIT ONE;zgTWO;zhHREE;zgFOUR;zhIVE;zgSIX;zhEVEN;zgEIGHT;zgNINE
zaNUMBER TEN;iCIRCLED SANS-SERIF DIGIT ONE;ziTWO;zjHREE;ziFOUR;zjIVE;ziSIX;zjEVEN;ziEIGHT;ziNINE
zcNUMBER TEN;iNEGATIVE CIRCLED SANS-SERIF DIGIT ONE;zrTWO;zsHREE;zrFOUR;zsIVE;zrSIX;zsEVEN;zrEIGHT
zrNINE;zlNUMBER TEN;aHEAVY WIDE-HEADED RIGHTWARDS ARROW;gPLUS SIGN;gMINUS SIGN;gDIVISION SIGN
gSOUTH EAST ARROW;gRIGHTWARDS ARROW;gNORTH EAST ARROW;aDRAFTING POINT RIGHTWARDS ARROW
aHEAVY ROUND-TIPPED RIGHTWARDS ARROW;aTRIANGLE-HEADED RIGHTWARDS ARROW
aHEAVY TRIANGLE-HEADED RIGHTWARDS ARROW;aDASHED TRIANGLE-HEADED RIGHTWARDS ARROW
aHEAVY DASHED TRIANGLE-HEADED RIGHTWARDS ARROW;aBLACK RIGHTWARDS ARROW
aTHREE-D TOP-LIGHTED RIGHTWARDS ARROWHEAD;iBOTTOM-LIGHTED RIGHTWARDS ARROWHEAD
aBLACK RIGHTWARDS ARROWHEAD;aHEAVY BLACK CURVED DOWNWARDS AND RIGHTWARDS ARROW
tUPWARDS AND RIGHTWARDS ARROW;aSQUAT BLACK RIGHTWARDS ARROW
aHEAVY CONCAVE-POINTED BLACK RIGHTWARDS ARROW;aRIGHT-SHADED WHITE RIGHTWARDS ARROW
aLEFT-SHADED WHITE RIGHTWARDS ARROW;aBACK-TILTED SHADOWED WHITE RIGHTWARDS ARROW
aFRONT-TILTED SHADOWED WHITE RIGHTWARDS ARROW;aHEAVY LOWER RIGHT-SHADOWED WHITE RIGHTWARDS ARROW
gUPPER RIGHT-SHADOWED WHITE RIGHTWARDS ARROW;aNOTCHED LOWER RIGHT-SHADOWED WHITE RIGHTWARDS ARROW
aCURLY LOOP;aNOTCHED UPPER RIGHT-SHADOWED WHITE RIGHTWARDS ARROW
aCIRCLED HEAVY WHITE RIGHTWARDS ARROW;aWHITE-FEATHERED RIGHTWARDS ARROW
aBLACK-FEATHERED SOUTH EAST ARROW;qRIGHTWARDS ARROW;qNORTH EAST ARROW
aHEAVY BLACK-FEATHERED SOUTH EAST ARROW;wRIGHTWARDS ARROW;wNORTH EAST ARROW
aTEARDROP-BARBED RIGHTWARDS ARROW;aHEAVY TEARDROP-SHANKED RIGHTWARDS ARROW
aWEDGE-TAILED RIGHTWARDS ARROW;aHEAVY WEDGE-TAILED RIGHTWARDS ARROW;aOPEN-OUTLINED RIGHTWARDS ARROW
aDOUBLE CURLY LOOP;aTHREE DIMENSIONAL ANGLE;aWHITE TRIANGLE CONTAINING SMALL WHITE TRIANGLE
aPERPENDICULAR;aOPEN SUBSET;hPERSET;aLEFT S-SHAPED BAG DELIMITER;aRIGHT S-SHAPED BAG DELIMITER
aOR WITH DOT INSIDE;aREVERSE SOLIDUS PRECEDING SUBSET;aSUPERSET PRECEDING SOLIDUS
aVERTICAL BAR WITH HORIZONTAL STROKE;aMATHEMATICAL RISING DIAGONAL;aLONG DIVISION
aMATHEMATICAL FALLING DIAGONAL;aSQUARED LOGICAL AND;qOR;aWHITE DIAMOND WITH CENTRED DOT
aAND WITH DOT;aELEMENT OF OPENING UPWARDS;aLOWER RIGHT CORNER WITH DOT;aUPPER LEFT CORNER WITH DOT
aLEFT OUTER JOIN;aRIGHT OUTER JOIN;aFULL OUTER JOIN;aLARGE UP TACK;gDOWN TACK
bEFT AND RIGHT DOUBLE TURNSTILE;pTACK;fMULTIMAP;bONG RIGHT TACK;fLEFT TACK
aUP TACK WITH CIRCLE ABOVE;aLOZENGE DIVIDED BY HORIZONTAL RULE;aWHITE CONCAVE-SIDED DIAMOND
zc WITH LEFTWARDS TICK;ziRIGHTWARDS TICK;gSQUARE WITH LEFTWARDS TICK;sRIGHTWARDS TICK
aMATHEMATICAL LEFT WHITE SQUARE BRACKET;nRIGHT WHITE SQUARE BRACKET;nLEFT ANGLE BRACKET
nRIGHT ANGLE BRACKET;nLEFT DOUBLE ANGLE BRACKET;nRIGHT DOUBLE ANGLE BRACKET
nLEFT WHITE TORTOISE SHELL BRACKET;nRIGHT WHITE TORTOISE SHELL BRACKET;nLEFT FLATTENED PARENTHESIS
nRIGHT FLATTENED PARENTHESIS;aUPWARDS QUADRUPLE ARROW;aDOWNWARDS QUADRUPLE ARROW
aANTICLOCKWISE GAPPED CIRCLE ARROW;aCLOCKWISE GAPPED CIRCLE ARROW;aRIGHT ARROW WITH CIRCLED PLUS
aLONG LEFTWARDS ARROW;fRIGHTWARDS ARROW;fLEFT RIGHT ARROW;jWARDS DOUBLE ARROW
fRIGHTWARDS DOUBLE ARROW;fLEFT RIGHT DOUBLE ARROW;jWARDS ARROW FROM BAR;fRIGHTWARDS ARROW FROM BAR
fLEFTWARDS DOUBLE ARROW FROM BAR;fRIGHTWARDS DOUBLE ARROW FROM BAR;qSQUIGGLE ARROW
aBRAILLE PATTERN BLANK;qDOTS-1;v2;v12;v3;v13;v23;v123;v4;v14;v24;v124;v34;v134;v234;v1234;v5;v15
v25;v125;v35;v135;v235;v1235;v45;v145;v245;v1245;v345;v1345;v2345;v12345;v6;v16;v26;v126;v36;v136
v236;v1236;v46;v146;v246;v1246;v346;v1346;v2346;v12346;v56;v156;v256;v1256;v356;v1356;v2356;v12356
v456;v1456;v2456;v12456;v3456;v13456;v23456;v123456;v7;v17;v27;v127;v37;v137;v237;v1237;v47;v147
v247;v1247;v347;v1347;v2347;v12347;v57;v157;v257;v1257;v357;v1357;v2357;v12357;v457;v1457;v2457
v12457;v3457;v13457;v23457;v123457;v67;v167;v267;v1267;v367;v1367;v2367;v12367;v467;v1467;v2467
v12467;v3467;v13467;v23467;v123467;v567;v1567;v2567;v12567;v3567;v13567;v23567;v123567;v4567;v14567
v24567;v124567;v34567;v134567;v234567;v1234567;v8;v18;v28;v128;v38;v138;v238;v1238;v48;v148;v248
v1248;v348;v1348;v2348;v12348;v58;v158;v258;v1258;v358;v1358;v2358;v12358;v458;v1458;v2458;v12458
v3458;v13458;v23458;v123458;v68;v168;v268;v1268;v368;v1368;v2368;v12368;v468;v1468;v2468;v12468
v3468;v13468;v23468;v123468;v568;v1568;v2568;v12568;v3568;v13568;v23568;v123568;v4568;v14568;v24568
v124568;v34568;v134568;v234568;v1234568;v78;v178;v278;v1278;v378;v1378;v2378;v12378;v478;v1478
v2478;v12478;v3478;v13478;v23478;v123478;v578;v1578;v2578;v12578;v3578;v13578;v23578;v123578;v4578
v14578;v24578;v124578;v34578;v134578;v234578;v1234578;v678;v1678;v2678;v12678;v3678;v13678;v23678
v123678;v4678;v14678;v24678;v124678;v34678;v134678;v234678;v1234678;v5678;v15678;v25678;v125678
v35678;v135678;v235678;v1235678;v45678;v145678;v245678;v1245678;v345678;v1345678;v2345678;v12345678
aRIGHTWARDS TWO-HEADED ARROW WITH VERTICAL STROKE;ziDOUBLE VERTICAL STROKE
aLEFTWARDS DOUBLE ARROW WITH VERTICAL STROKE;aRIGHTWARDS DOUBLE ARROW WITH VERTICAL STROKE
aLEFT RIGHT DOUBLE ARROW WITH VERTICAL STROKE;aRIGHTWARDS TWO-HEADED ARROW FROM BAR
aLEFTWARDS DOUBLE ARROW FROM BAR;aRIGHTWARDS DOUBLE ARROW FROM BAR
aDOWNWARDS ARROW WITH HORIZONTAL STROKE;aUPWARDS ARROW WITH HORIZONTAL STROKE;iTRIPLE ARROW
aDOWNWARDS TRIPLE ARROW;aLEFTWARDS DOUBLE DASH ARROW;aRIGHTWARDS DOUBLE DASH ARROW
aLEFTWARDS TRIPLE DASH ARROW;aRIGHTWARDS TRIPLE DASH ARROW;mWO-HEADED TRIPLE DASH ARROW
lARROW WITH DOTTED STEM;aUPWARDS ARROW TO BAR;aDOWNWARDS ARROW TO BAR
aRIGHTWARDS ARROW WITH TAIL WITH VERTICAL STROKE;zhDOUBLE VERTICAL STROKE
lTWO-HEADED ARROW WITH TAIL;zm WITH VERTICAL STROKE;zsDOUBLE VERTICAL STROKE;aLEFTWARDS ARROW-TAIL
aRIGHTWARDS ARROW-TAIL;aLEFTWARDS DOUBLE ARROW-TAIL;aRIGHTWARDS DOUBLE ARROW-TAIL
aLEFTWARDS ARROW TO BLACK DIAMOND;aRIGHTWARDS ARROW TO BLACK DIAMOND
aLEFTWARDS ARROW FROM BAR TO BLACK DIAMOND;aRIGHTWARDS ARROW FROM BAR TO BLACK DIAMOND
aNORTH WEST AND SOUTH EAST ARROW;gEAST AND SOUTH WEST ARROW;gWEST ARROW WITH HOOK
gEAST ARROW WITH HOOK;aSOUTH EAST ARROW WITH HOOK;gWEST ARROW WITH HOOK
aNORTH WEST ARROW AND NORTH EAST ARROW;gEAST ARROW AND SOUTH EAST ARROW
aSOUTH EAST ARROW AND SOUTH WEST ARROW;gWEST ARROW AND NORTH WEST ARROW
aRISING DIAGONAL CROSSING FALLING DIAGONAL;aFALLING DIAGONAL CROSSING RISING DIAGONAL
aSOUTH EAST ARROW CROSSING NORTH EAST ARROW;aNORTH EAST ARROW CROSSING SOUTH EAST ARROW
aFALLING DIAGONAL CROSSING NORTH EAST ARROW;aRISING DIAGONAL CROSSING SOUTH EAST ARROW
aNORTH EAST ARROW CROSSING NORTH WEST ARROW;gWEST ARROW CROSSING NORTH EAST ARROW
aWAVE ARROW POINTING DIRECTLY RIGHT;aARROW POINTING RIGHTWARDS THEN CURVING UPWARDS;zoDOWNWARDS
pDOWNWARDS THEN CURVING LEFTWARDS;znRIGHTWARDS;aRIGHT-SIDE ARC CLOCKWISE ARROW
aLEFT-SIDE ARC ANTICLOCKWISE ARROW;aTOP ARC ANTICLOCKWISE ARROW;aBOTTOM ARC ANTICLOCKWISE ARROW
aTOP ARC CLOCKWISE ARROW WITH MINUS;iANTICLOCKWISE ARROW WITH PLUS
aLOWER RIGHT SEMICIRCULAR CLOCKWISE ARROW;gLEFT SEMICIRCULAR ANTICLOCKWISE ARROW
aANTICLOCKWISE CLOSED CIRCLE ARROW;aCLOCKWISE CLOSED CIRCLE ARROW
aRIGHTWARDS ARROW ABOVE SHORT LEFTWARDS ARROW;aLEFTWARDS ARROW ABOVE SHORT RIGHTWARDS ARROW
aSHORT RIGHTWARDS ARROW ABOVE LEFTWARDS ARROW;aRIGHTWARDS ARROW WITH PLUS BELOW
aLEFTWARDS ARROW WITH PLUS BELOW;aRIGHTWARDS ARROW THROUGH X;aLEFT RIGHT ARROW THROUGH SMALL CIRCLE
aUPWARDS TWO-HEADED ARROW FROM SMALL CIRCLE;aLEFT BARB UP RIGHT BARB DOWN HARPOON
kDOWN RIGHT BARB UP HARPOON;aUP BARB RIGHT DOWN BARB LEFT HARPOON;iLEFT DOWN BARB RIGHT HARPOON
aLEFT BARB UP RIGHT BARB UP HARPOON;aUP BARB RIGHT DOWN BARB RIGHT HARPOON
aLEFT BARB DOWN RIGHT BARB DOWN HARPOON;aUP BARB LEFT DOWN BARB LEFT HARPOON
aLEFTWARDS HARPOON WITH BARB UP TO BAR;aRIGHTWARDS HARPOON WITH BARB UP TO BAR
aUPWARDS HARPOON WITH BARB RIGHT TO BAR;aDOWNWARDS HARPOON WITH BARB RIGHT TO BAR
aLEFTWARDS HARPOON WITH BARB DOWN TO BAR;aRIGHTWARDS HARPOON WITH BARB DOWN TO BAR
aUPWARDS HARPOON WITH BARB LEFT TO BAR;aDOWNWARDS HARPOON WITH BARB LEFT TO BAR
aLEFTWARDS HARPOON WITH BARB UP FROM BAR;aRIGHTWARDS HARPOON WITH BARB UP FROM BAR
aUPWARDS HARPOON WITH BARB RIGHT FROM BAR;aDOWNWARDS HARPOON WITH BARB RIGHT FROM BAR
aLEFTWARDS HARPOON WITH BARB DOWN FROM BAR;aRIGHTWARDS HARPOON WITH BARB DOWN FROM BAR
aUPWARDS HARPOON WITH BARB LEFT FROM BAR;aDOWNWARDS HARPOON WITH BARB LEFT FROM BAR
aLEFTWARDS HARPOON WITH BARB UP ABOVE LEFTWARDS HARPOON WITH BARB DOWN
aUPWARDS HARPOON WITH BARB LEFT BESIDE UPWARDS HARPOON WITH BARB RIGHT
aRIGHTWARDS HARPOON WITH BARB UP ABOVE RIGHTWARDS HARPOON WITH BARB DOWN
aDOWNWARDS HARPOON WITH BARB LEFT BESIDE DOWNWARDS HARPOON WITH BARB RIGHT
aLEFTWARDS HARPOON WITH BARB UP ABOVE RIGHTWARDS HARPOON WITH BARB UP
zdDOWN ABOVE RIGHTWARDS HARPOON WITH BARB DOWN
aRIGHTWARDS HARPOON WITH BARB UP ABOVE LEFTWARDS HARPOON WITH BARB UP
zeDOWN ABOVE LEFTWARDS HARPOON WITH BARB DOWN;aLEFTWARDS HARPOON WITH BARB UP ABOVE LONG DASH
zdDOWN BELOW LONG DASH;aRIGHTWARDS HARPOON WITH BARB UP ABOVE LONG DASH;zeDOWN BELOW LONG DASH
aUPWARDS HARPOON WITH BARB LEFT BESIDE DOWNWARDS HARPOON WITH BARB RIGHT
aDOWNWARDS HARPOON WITH BARB LEFT BESIDE UPWARDS HARPOON WITH BARB RIGHT
aRIGHT DOUBLE ARROW WITH ROUNDED HEAD;aEQUALS SIGN ABOVE RIGHTWARDS ARROW
aTILDE OPERATOR ABOVE RIGHTWARDS ARROW;aLEFTWARDS ARROW ABOVE TILDE OPERATOR
aRIGHTWARDS ARROW ABOVE TILDE OPERATOR;xALMOST EQUAL TO;aLESS-THAN ABOVE LEFTWARDS ARROW
cFTWARDS ARROW THROUGH LESS-THAN;aGREATER-THAN ABOVE RIGHTWARDS ARROW
aSUBSET ABOVE RIGHTWARDS ARROW;aLEFTWARDS ARROW THROUGH SUBSET;aSUPERSET ABOVE LEFTWARDS ARROW
aLEFT FISH TAIL;aRIGHT FISH TAIL;aUP FISH TAIL;aDOWN FISH TAIL;aTRIPLE VERTICAL BAR DELIMITER
aZ NOTATION SPOT;lTYPE COLON;aLEFT WHITE CURLY BRACKET;aRIGHT WHITE CURLY BRACKET
aLEFT WHITE PARENTHESIS;aRIGHT WHITE PARENTHESIS;aZ NOTATION LEFT IMAGE BRACKET
lRIGHT IMAGE BRACKET;lLEFT BINDING BRACKET;lRIGHT BINDING BRACKET
aLEFT SQUARE BRACKET WITH UNDERBAR;aRIGHT SQUARE BRACKET WITH UNDERBAR
aLEFT SQUARE BRACKET WITH TICK IN TOP CORNER;aRIGHT SQUARE BRACKET WITH TICK IN BOTTOM CORNER
aLEFT SQUARE BRACKET WITH TICK IN BOTTOM CORNER;aRIGHT SQUARE BRACKET WITH TICK IN TOP CORNER
aLEFT ANGLE BRACKET WITH DOT;aRIGHT ANGLE BRACKET WITH DOT;aLEFT ARC LESS-THAN BRACKET
aRIGHT ARC GREATER-THAN BRACKET;aDOUBLE LEFT ARC GREATER-THAN BRACKET;hRIGHT ARC LESS-THAN BRACKET
aLEFT BLACK TORTOISE SHELL BRACKET;aRIGHT BLACK TORTOISE SHELL BRACKET;aDOTTED FENCE
aVERTICAL ZIGZAG LINE;aMEASURED ANGLE OPENING LEFT;aRIGHT ANGLE VARIANT WITH SQUARE
aMEASURED RIGHT ANGLE WITH DOT;aANGLE WITH S INSIDE;bCUTE ANGLE;aSPHERICAL ANGLE OPENING LEFT;yUP
aTURNED ANGLE;aREVERSED ANGLE;aANGLE WITH UNDERBAR;aREVERSED ANGLE WITH UNDERBAR
aOBLIQUE ANGLE OPENING UP;wDOWN;aMEASURED ANGLE WITH OPEN ARM ENDING IN ARROW POINTING UP AND RIGHT
zzING UP AND LEFT;zzING DOWN AND RIGHT;zzING DOWN AND LEFT;zzING RIGHT AND UP;zzING LEFT AND UP
zzING RIGHT AND DOWN;zzING LEFT AND DOWN;aREVERSED EMPTY SET;aEMPTY SET WITH OVERBAR
pSMALL CIRCLE ABOVE;pRIGHT ARROW ABOVE;pLEFT ARROW ABOVE;aCIRCLE WITH HORIZONTAL BAR
gD VERTICAL BAR;iPARALLEL;iREVERSE SOLIDUS;iPERPENDICULAR
g DIVIDED BY HORIZONTAL BAR AND TOP HALF DIVIDED BY VERTICAL BAR;hWITH SUPERIMPOSED X
gD ANTICLOCKWISE-ROTATED DIVISION SIGN;aUP ARROW THROUGH CIRCLE;aCIRCLED WHITE BULLET;iBULLET
iLESS-THAN;iGREATER-THAN;g WITH SMALL CIRCLE TO THE RIGHT;mTWO HORIZONTAL STROKES TO THE RIGHT
aSQUARED RISING DIAGONAL SLASH;iFALLING DIAGONAL SLASH;iASTERISK;iSMALL CIRCLE;jQUARE
aTWO JOINED SQUARES;bRIANGLE WITH DOT ABOVE;oUNDERBAR;aS IN TRIANGLE
aTRIANGLE WITH SERIFS AT BOTTOM;aRIGHT TRIANGLE ABOVE LEFT TRIANGLE
aLEFT TRIANGLE BESIDE VERTICAL BAR;aVERTICAL BAR BESIDE RIGHT TRIANGLE;aBOWTIE WITH LEFT HALF BLACK
mRIGHT HALF BLACK;bLACK BOWTIE;aTIMES WITH LEFT HALF BLACK;lRIGHT HALF BLACK;aWHITE HOURGLASS
aBLACK HOURGLASS;aLEFT WIGGLY FENCE;aRIGHT WIGGLY FENCE;aLEFT DOUBLE WIGGLY FENCE
aRIGHT DOUBLE WIGGLY FENCE;aINCOMPLETE INFINITY;aTIE OVER INFINITY
aINFINITY NEGATED WITH VERTICAL BAR;aDOUBLE-ENDED MULTIMAP;aSQUARE WITH CONTOURED OUTLINE
aINCREASES AS;aSHUFFLE PRODUCT;aEQUALS SIGN AND SLANTED PARALLEL;zh WITH TILDE ABOVE
aIDENTICAL TO AND SLANTED PARALLEL;aGLEICH STARK;aTHERMODYNAMIC
aDOWN-POINTING TRIANGLE WITH LEFT HALF BLACK;zdRIGHT HALF BLACK;aBLACK DIAMOND WITH DOWN ARROW
gLOZENGE;aWHITE CIRCLE WITH DOWN ARROW;aBLACK CIRCLE WITH DOWN ARROW;aERROR-BARRED WHITE SQUARE
nBLACK SQUARE;nWHITE DIAMOND;nBLACK DIAMOND;nWHITE CIRCLE;nBLACK CIRCLE;aRULE-DELAYED
bEVERSE SOLIDUS OPERATOR;aSOLIDUS WITH OVERBAR;aREVERSE SOLIDUS WITH HORIZONTAL STROKE;aBIG SOLIDUS
eREVERSE SOLIDUS;aDOUBLE PLUS;aTRIPLE PLUS;aLEFT-POINTING CURVED ANGLE BRACKET
aRIGHT-POINTING CURVED ANGLE BRACKET;aTINY;aMINY;aN-ARY CIRCLED DOT OPERATOR;oPLUS OPERATOR
oTIMES OPERATOR;gUNION OPERATOR WITH DOT;zbPLUS;gSQUARE INTERSECTION OPERATOR;nUNION OPERATOR
aTWO LOGICAL AND OPERATOR;mOR OPERATOR;aN-ARY TIMES OPERATOR;aMODULO TWO SUM
aSUMMATION WITH INTEGRAL;aQUADRUPLE INTEGRAL OPERATOR;aFINITE PART INTEGRAL
aINTEGRAL WITH DOUBLE STROKE;jAVERAGE WITH SLASH;aCIRCULATION FUNCTION;aANTICLOCKWISE INTEGRATION
aLINE INTEGRATION WITH RECTANGULAR PATH AROUND POLE;wSEMICIRCULAR PATH AROUND POLE
rNOT INCLUDING THE POLE;aINTEGRAL AROUND A POINT OPERATOR;aQUATERNION INTEGRAL OPERATOR
aINTEGRAL WITH LEFTWARDS ARROW WITH HOOK;oTIMES SIGN;oINTERSECTION;oUNION;oOVERBAR;oUNDERBAR;aJOIN
aLARGE LEFT TRIANGLE OPERATOR;aZ NOTATION SCHEMA COMPOSITION;sPIPING;tROJECTION
aPLUS SIGN WITH SMALL CIRCLE ABOVE;pCIRCUMFLEX ACCENT ABOVE;pTILDE ABOVE;pDOT BELOW;pTILDE BELOW
pSUBSCRIPT TWO;pBLACK TRIANGLE;aMINUS SIGN WITH COMMA ABOVE;qDOT BELOW;qFALLING DOTS;qRISING DOTS
aPLUS SIGN IN LEFT HALF CIRCLE;nRIGHT HALF CIRCLE;aVECTOR OR CROSS PRODUCT
aMULTIPLICATION SIGN WITH DOT ABOVE;zaUNDERBAR;aSEMIDIRECT PRODUCT WITH BOTTOM CLOSED;bMASH PRODUCT
aMULTIPLICATION SIGN IN LEFT HALF CIRCLE;xRIGHT HALF CIRCLE
aCIRCLED MULTIPLICATION SIGN WITH CIRCUMFLEX ACCENT;aMULTIPLICATION SIGN IN DOUBLE CIRCLE
aCIRCLED DIVISION SIGN;aPLUS SIGN IN TRIANGLE;aMINUS SIGN IN TRIANGLE
bULTIPLICATION SIGN IN TRIANGLE;aINTERIOR PRODUCT;aRIGHTHAND INTERIOR PRODUCT
aZ NOTATION RELATIONAL COMPOSITION;aAMALGAMATION OR COPRODUCT;aINTERSECTION WITH DOT
aUNION WITH MINUS SIGN;lOVERBAR;aINTERSECTION WITH OVERBAR;sLOGICAL AND;aUNION WITH LOGICAL OR
gABOVE INTERSECTION;aINTERSECTION ABOVE UNION;aUNION ABOVE BAR ABOVE INTERSECTION
aINTERSECTION ABOVE BAR ABOVE UNION;aUNION BESIDE AND JOINED WITH UNION
aINTERSECTION BESIDE AND JOINED WITH INTERSECTION;aCLOSED UNION WITH SERIFS
hINTERSECTION WITH SERIFS;aDOUBLE SQUARE INTERSECTION;oUNION
aCLOSED UNION WITH SERIFS AND SMASH PRODUCT;aLOGICAL AND WITH DOT ABOVE;iOR WITH DOT ABOVE
aDOUBLE LOGICAL AND;pOR;aTWO INTERSECTING LOGICAL AND;zaOR;aSLOPING LARGE OR;oAND
aLOGICAL OR OVERLAPPING LOGICAL AND;iAND WITH MIDDLE STEM;iOR WITH MIDDLE STEM
iAND WITH HORIZONTAL DASH;iOR WITH HORIZONTAL DASH;iAND WITH DOUBLE OVERBAR;rUNDERBAR
rDOUBLE UNDERBAR;aSMALL VEE WITH UNDERBAR;aLOGICAL OR WITH DOUBLE OVERBAR;xUNDERBAR
aZ NOTATION DOMAIN ANTIRESTRICTION;lRANGE ANTIRESTRICTION;aEQUALS SIGN WITH DOT BELOW
aIDENTICAL WITH DOT ABOVE;aTRIPLE HORIZONTAL BAR WITH DOUBLE VERTICAL STROKE
zcTRIPLE VERTICAL STROKE;bILDE OPERATOR WITH DOT ABOVE;uRISING DOTS;aSIMILAR MINUS SIMILAR
aCONGRUENT WITH DOT ABOVE;aEQUALS WITH ASTERISK;aALMOST EQUAL TO WITH CIRCUMFLEX ACCENT
bPPROXIMATELY EQUAL OR EQUAL TO;aEQUALS SIGN ABOVE PLUS SIGN;aPLUS SIGN ABOVE EQUALS SIGN
aEQUALS SIGN ABOVE TILDE OPERATOR;aDOUBLE COLON EQUAL;aTWO CONSECUTIVE EQUALS SIGNS
bHREE CONSECUTIVE EQUALS SIGNS;aEQUALS SIGN WITH TWO DOTS ABOVE AND TWO DOTS BELOW
dIVALENT WITH FOUR DOTS ABOVE;aLESS-THAN WITH CIRCLE INSIDE;aGREATER-THAN WITH CIRCLE INSIDE
aLESS-THAN WITH QUESTION MARK ABOVE;aGREATER-THAN WITH QUESTION MARK ABOVE
aLESS-THAN OR SLANTED EQUAL TO;aGREATER-THAN OR SLANTED EQUAL TO
aLESS-THAN OR SLANTED EQUAL TO WITH DOT INSIDE;aGREATER-THAN OR SLANTED EQUAL TO WITH DOT INSIDE
aLESS-THAN OR SLANTED EQUAL TO WITH DOT ABOVE;aGREATER-THAN OR SLANTED EQUAL TO WITH DOT ABOVE
aLESS-THAN OR SLANTED EQUAL TO WITH DOT ABOVE RIGHT
aGREATER-THAN OR SLANTED EQUAL TO WITH DOT ABOVE LEFT;aLESS-THAN OR APPROXIMATE
aGREATER-THAN OR APPROXIMATE;aLESS-THAN AND SINGLE-LINE NOT EQUAL TO
aGREATER-THAN AND SINGLE-LINE NOT EQUAL TO;aLESS-THAN AND NOT APPROXIMATE
aGREATER-THAN AND NOT APPROXIMATE;aLESS-THAN ABOVE DOUBLE-LINE EQUAL ABOVE GREATER-THAN
aGREATER-THAN ABOVE DOUBLE-LINE EQUAL ABOVE LESS-THAN;aLESS-THAN ABOVE SIMILAR OR EQUAL
aGREATER-THAN ABOVE SIMILAR OR EQUAL;aLESS-THAN ABOVE SIMILAR ABOVE GREATER-THAN
aGREATER-THAN ABOVE SIMILAR ABOVE LESS-THAN;aLESS-THAN ABOVE GREATER-THAN ABOVE DOUBLE-LINE EQUAL
aGREATER-THAN ABOVE LESS-THAN ABOVE DOUBLE-LINE EQUAL
aLESS-THAN ABOVE SLANTED EQUAL ABOVE GREATER-THAN ABOVE SLANTED EQUAL
aGREATER-THAN ABOVE SLANTED EQUAL ABOVE LESS-THAN ABOVE SLANTED EQUAL
aSLANTED EQUAL TO OR LESS-THAN;uGREATER-THAN;uLESS-THAN WITH DOT INSIDE
uGREATER-THAN WITH DOT INSIDE;aDOUBLE-LINE EQUAL TO OR LESS-THAN;yGREATER-THAN
mSLANTED EQUAL TO OR LESS-THAN;zhGREATER-THAN;aSIMILAR OR LESS-THAN;lGREATER-THAN
iABOVE LESS-THAN ABOVE EQUALS SIGN;oGREATER-THAN ABOVE EQUALS SIGN;aDOUBLE NESTED LESS-THAN
oGREATER-THAN;oLESS-THAN WITH UNDERBAR;aGREATER-THAN OVERLAPPING LESS-THAN;nBESIDE LESS-THAN
aLESS-THAN CLOSED BY CURVE;aGREATER-THAN CLOSED BY CURVE
aLESS-THAN CLOSED BY CURVE ABOVE SLANTED EQUAL;aGREATER-THAN CLOSED BY CURVE ABOVE SLANTED EQUAL
aSMALLER THAN;aLARGER THAN;aSMALLER THAN OR EQUAL TO;aLARGER THAN OR EQUAL TO
aEQUALS SIGN WITH BUMPY ABOVE;aPRECEDES ABOVE SINGLE-LINE EQUALS SIGN
aSUCCEEDS ABOVE SINGLE-LINE EQUALS SIGN;aPRECEDES ABOVE SINGLE-LINE NOT EQUAL TO
aSUCCEEDS ABOVE SINGLE-LINE NOT EQUAL TO;aPRECEDES ABOVE EQUALS SIGN;aSUCCEEDS ABOVE EQUALS SIGN
aPRECEDES ABOVE NOT EQUAL TO;aSUCCEEDS ABOVE NOT EQUAL TO;aPRECEDES ABOVE ALMOST EQUAL TO
aSUCCEEDS ABOVE ALMOST EQUAL TO;aPRECEDES ABOVE NOT ALMOST EQUAL TO
aSUCCEEDS ABOVE NOT ALMOST EQUAL TO;aDOUBLE PRECEDES;hSUCCEEDS;aSUBSET WITH DOT;cPERSET WITH DOT
cBSET WITH PLUS SIGN BELOW;cPERSET WITH PLUS SIGN BELOW;cBSET WITH MULTIPLICATION SIGN BELOW
cPERSET WITH MULTIPLICATION SIGN BELOW;cBSET OF OR EQUAL TO WITH DOT ABOVE
cPERSET OF OR EQUAL TO WITH DOT ABOVE;cBSET OF ABOVE EQUALS SIGN;cPERSET OF ABOVE EQUALS SIGN
cBSET OF ABOVE TILDE OPERATOR;cPERSET OF ABOVE TILDE OPERATOR;cBSET OF ABOVE ALMOST EQUAL TO
cPERSET OF ABOVE ALMOST EQUAL TO;cBSET OF ABOVE NOT EQUAL TO;cPERSET OF ABOVE NOT EQUAL TO
bQUARE LEFT OPEN BOX OPERATOR;hRIGHT OPEN BOX OPERATOR;aCLOSED SUBSET;jPERSET;jBSET OR EQUAL TO
jPERSET OR EQUAL TO;aSUBSET ABOVE SUPERSET;cPERSET ABOVE SUBSET;cBSET ABOVE SUBSET
cPERSET ABOVE SUPERSET;jBESIDE SUBSET;qAND JOINED BY DASH WITH SUBSET;aELEMENT OF OPENING DOWNWARDS
aPITCHFORK WITH TEE TOP;aTRANSVERSAL INTERSECTION;aFORKING;aNONFORKING;aSHORT LEFT TACK;gDOWN TACK
gUP TACK;aPERPENDICULAR WITH S;aVERTICAL BAR TRIPLE RIGHT TURNSTILE
aDOUBLE VERTICAL BAR LEFT TURNSTILE;aVERTICAL BAR DOUBLE LEFT TURNSTILE
aDOUBLE VERTICAL BAR DOUBLE LEFT TURNSTILE;aLONG DASH FROM LEFT MEMBER OF DOUBLE VERTICAL
aSHORT DOWN TACK WITH OVERBAR;gUP TACK WITH UNDERBAR;oABOVE SHORT DOWN TACK;aDOUBLE DOWN TACK
hUP TACK;hSTROKE NOT SIGN;aREVERSED DOUBLE STROKE NOT SIGN
aDOES NOT DIVIDE WITH REVERSED NEGATION SLASH;aVERTICAL LINE WITH CIRCLE ABOVE;zbBELOW
aDOWN TACK WITH CIRCLE BELOW;aPARALLEL WITH HORIZONTAL STROKE;oTILDE OPERATOR
aTRIPLE VERTICAL BAR BINARY RELATION;uWITH HORIZONTAL STROKE;hCOLON OPERATOR;hNESTED LESS-THAN
oGREATER-THAN;aDOUBLE-LINE SLANTED LESS-THAN OR EQUAL TO;uGREATER-THAN OR EQUAL TO
aTRIPLE SOLIDUS BINARY RELATION;aLARGE TRIPLE VERTICAL BAR OPERATOR;aDOUBLE SOLIDUS OPERATOR
aWHITE VERTICAL BAR;aN-ARY WHITE VERTICAL BAR;bORTH EAST WHITE ARROW;gWEST WHITE ARROW
aSOUTH EAST WHITE ARROW;gWEST WHITE ARROW;aLEFT RIGHT WHITE ARROW;eWARDS BLACK ARROW
aUPWARDS BLACK ARROW;aDOWNWARDS BLACK ARROW;aNORTH EAST BLACK ARROW;gWEST BLACK ARROW
aSOUTH EAST BLACK ARROW;gWEST BLACK ARROW;aLEFT RIGHT BLACK ARROW;aUP DOWN BLACK ARROW
aRIGHTWARDS ARROW WITH TIP DOWNWARDS;zbUPWARDS;aLEFTWARDS ARROW WITH TIP DOWNWARDS;zaUPWARDS
aSQUARE WITH TOP HALF BLACK;mBOTTOM HALF BLACK;mUPPER RIGHT DIAGONAL HALF BLACK
mLOWER LEFT DIAGONAL HALF BLACK;aDIAMOND WITH LEFT HALF BLACK;nRIGHT HALF BLACK;nTOP HALF BLACK
nBOTTOM HALF BLACK;bOTTED SQUARE;aBLACK LARGE SQUARE;aWHITE LARGE SQUARE;aBLACK VERY SMALL SQUARE
aWHITE VERY SMALL SQUARE;aBLACK PENTAGON;aWHITE PENTAGON;gHEXAGON;aBLACK HEXAGON
aHORIZONTAL BLACK HEXAGON;aBLACK LARGE CIRCLE;gMEDIUM DIAMOND;aWHITE MEDIUM DIAMOND
aBLACK MEDIUM LOZENGE;aWHITE MEDIUM LOZENGE;aBLACK SMALL DIAMOND;mLOZENGE;aWHITE SMALL LOZENGE
aBLACK HORIZONTAL ELLIPSE;aWHITE HORIZONTAL ELLIPSE;aBLACK VERTICAL ELLIPSE;aWHITE VERTICAL ELLIPSE
aLEFT ARROW WITH SMALL CIRCLE;aTHREE LEFTWARDS ARROWS;aLEFT ARROW WITH CIRCLED PLUS
bONG LEFTWARDS SQUIGGLE ARROW;bEFTWARDS TWO-HEADED ARROW WITH VERTICAL STROKE
zhDOUBLE VERTICAL STROKE;zcFROM BAR;vTRIPLE DASH ARROW;kARROW WITH DOTTED STEM
vTAIL WITH VERTICAL STROKE;zgDOUBLE VERTICAL STROKE;kTWO-HEADED ARROW WITH TAIL
zl WITH VERTICAL STROKE;zrDOUBLE VERTICAL STROKE;kARROW THROUGH X
aWAVE ARROW POINTING DIRECTLY LEFT;aEQUALS SIGN ABOVE LEFTWARDS ARROW
aREVERSE TILDE OPERATOR ABOVE LEFTWARDS ARROW;aLEFTWARDS ARROW ABOVE REVERSE ALMOST EQUAL TO
aRIGHTWARDS ARROW THROUGH GREATER-THAN;zaSUPERSET;aLEFTWARDS QUADRUPLE ARROW
aRIGHTWARDS QUADRUPLE ARROW;bEVERSE TILDE OPERATOR ABOVE RIGHTWARDS ARROW
bIGHTWARDS ARROW ABOVE REVERSE ALMOST EQUAL TO;aTILDE OPERATOR ABOVE LEFTWARDS ARROW
aLEFTWARDS ARROW ABOVE ALMOST EQUAL TO;wREVERSE TILDE OPERATOR
aRIGHTWARDS ARROW ABOVE REVERSE TILDE OPERATOR;aDOWNWARDS TRIANGLE-HEADED ZIGZAG ARROW
aSHORT SLANTED NORTH ARROW;gBACKSLANTED SOUTH ARROW;aWHITE MEDIUM STAR;aBLACK SMALL STAR
aWHITE SMALL STAR;aBLACK RIGHT-POINTING PENTAGON;aWHITE RIGHT-POINTING PENTAGON;aHEAVY LARGE CIRCLE
gOVAL WITH OVAL INSIDE;gCIRCLE WITH CIRCLE INSIDE;m;mD SALTIRE
aSLANTED NORTH ARROW WITH HOOKED HEAD;aBACKSLANTED SOUTH ARROW WITH HOOKED TAIL
aSLANTED NORTH ARROW WITH HORIZONTAL TAIL;aBACKSLANTED SOUTH ARROW WITH HORIZONTAL TAIL
bENT ARROW POINTING DOWNWARDS THEN NORTH EAST;aSHORT BENT ARROW POINTING DOWNWARDS THEN NORTH EAST
aLEFTWARDS TRIANGLE-HEADED ARROW;aUPWARDS TRIANGLE-HEADED ARROW;aRIGHTWARDS TRIANGLE-HEADED ARROW
aDOWNWARDS TRIANGLE-HEADED ARROW;aLEFT RIGHT TRIANGLE-HEADED ARROW;aUP DOWN TRIANGLE-HEADED ARROW
aNORTH WEST TRIANGLE-HEADED ARROW;gEAST TRIANGLE-HEADED ARROW;aSOUTH EAST TRIANGLE-HEADED ARROW
gWEST TRIANGLE-HEADED ARROW;aLEFTWARDS TRIANGLE-HEADED DASHED ARROW
aUPWARDS TRIANGLE-HEADED DASHED ARROW;aRIGHTWARDS TRIANGLE-HEADED DASHED ARROW
aDOWNWARDS TRIANGLE-HEADED DASHED ARROW;aCLOCKWISE TRIANGLE-HEADED OPEN CIRCLE ARROW
aANTICLOCKWISE TRIANGLE-HEADED OPEN CIRCLE ARROW;aLEFTWARDS TRIANGLE-HEADED ARROW TO BAR
aUPWARDS TRIANGLE-HEADED ARROW TO BAR;aRIGHTWARDS TRIANGLE-HEADED ARROW TO BAR
aDOWNWARDS TRIANGLE-HEADED ARROW TO BAR;3aNORTH WEST TRIANGLE-HEADED ARROW TO BAR
gEAST TRIANGLE-HEADED ARROW TO BAR;aSOUTH EAST TRIANGLE-HEADED ARROW TO BAR
gWEST TRIANGLE-HEADED ARROW TO BAR;aLEFTWARDS TRIANGLE-HEADED ARROW WITH DOUBLE HORIZONTAL STROKE
0ztVERTICAL STROKE;aUPWARDS TRIANGLE-HEADED ARROW WITH DOUBLE HORIZONTAL STROKE
aRIGHTWARDS TRIANGLE-HEADED ARROW WITH DOUBLE HORIZONTAL STROKE;0zuVERTICAL STROKE
aDOWNWARDS TRIANGLE-HEADED ARROW WITH DOUBLE HORIZONTAL STROKE;aHORIZONTAL TAB KEY
aVERTICAL TAB KEY;aLEFTWARDS TRIANGLE-HEADED ARROW OVER RIGHTWARDS TRIANGLE-HEADED ARROW
aUPWARDS TRIANGLE-HEADED ARROW LEFTWARDS OF DOWNWARDS TRIANGLE-HEADED ARROW
aRIGHTWARDS TRIANGLE-HEADED ARROW OVER LEFTWARDS TRIANGLE-HEADED ARROW
aDOWNWARDS TRIANGLE-HEADED ARROW LEFTWARDS OF UPWARDS TRIANGLE-HEADED ARROW
aLEFTWARDS TRIANGLE-HEADED PAIRED ARROWS;aUPWARDS TRIANGLE-HEADED PAIRED ARROWS
aRIGHTWARDS TRIANGLE-HEADED PAIRED ARROWS;aDOWNWARDS TRIANGLE-HEADED PAIRED ARROWS
aLEFTWARDS BLACK CIRCLED WHITE ARROW;aUPWARDS BLACK CIRCLED WHITE ARROW
aRIGHTWARDS BLACK CIRCLED WHITE ARROW;aDOWNWARDS BLACK CIRCLED WHITE ARROW
aANTICLOCKWISE TRIANGLE-HEADED RIGHT U-SHAPED ARROW;zfBOTTOM U-SHAPED ARROW;zfLEFT U-SHAPED ARROW
zfTOP U-SHAPED ARROW;aRETURN LEFT;hRIGHT;aNEWLINE LEFT;iRIGHT
aFOUR CORNER ARROWS CIRCLING ANTICLOCKWISE;aRIGHTWARDS BLACK ARROW;2aSYMBOL FOR TYPE A ELECTRONICS
aTHREE-D TOP-LIGHTED LEFTWARDS EQUILATERAL ARROWHEAD;iRIGHT-LIGHTED UPWARDS EQUILATERAL ARROWHEAD
iTOP-LIGHTED RIGHTWARDS EQUILATERAL ARROWHEAD;iLEFT-LIGHTED DOWNWARDS EQUILATERAL ARROWHEAD
aBLACK LEFTWARDS EQUILATERAL ARROWHEAD;gUPWARDS EQUILATERAL ARROWHEAD
gRIGHTWARDS EQUILATERAL ARROWHEAD;gDOWNWARDS EQUILATERAL ARROWHEAD
aDOWNWARDS TRIANGLE-HEADED ARROW WITH LONG TIP LEFTWARDS;zvRIGHTWARDS
aUPWARDS TRIANGLE-HEADED ARROW WITH LONG TIP LEFTWARDS;ztRIGHTWARDS
aLEFTWARDS TRIANGLE-HEADED ARROW WITH LONG TIP UPWARDS
aRIGHTWARDS TRIANGLE-HEADED ARROW WITH LONG TIP UPWARDS
aLEFTWARDS TRIANGLE-HEADED ARROW WITH LONG TIP DOWNWARDS
aRIGHTWARDS TRIANGLE-HEADED ARROW WITH LONG TIP DOWNWARDS
aBLACK CURVED DOWNWARDS AND LEFTWARDS ARROW;zcRIGHTWARDS ARROW;nUPWARDS AND LEFTWARDS ARROW
zaRIGHTWARDS ARROW;nLEFTWARDS AND UPWARDS ARROW;nRIGHTWARDS AND UPWARDS ARROW
nLEFTWARDS AND DOWNWARDS ARROW;nRIGHTWARDS AND DOWNWARDS ARROW;aRIBBON ARROW DOWN LEFT;sRIGHT
nUP LEFT;qRIGHT;nLEFT UP;nRIGHT UP;nLEFT DOWN;nRIGHT DOWN
aUPWARDS WHITE ARROW FROM BAR WITH HORIZONTAL BAR;c ARROWHEAD IN A RECTANGLE BOX
aOVERLAPPING WHITE SQUARES;sAND BLACK SQUARES;mBLACK SQUARES;aBALLOT BOX WITH LIGHT X;aCIRCLED X
iBOLD X;aBLACK SQUARE CENTRED;gDIAMOND CENTRED;aTURNED BLACK PENTAGON;aHORIZONTAL BLACK OCTAGON
aBLACK OCTAGON;gMEDIUM UP-POINTING TRIANGLE CENTRED;nDOWN-POINTING TRIANGLE CENTRED
nLEFT-POINTING TRIANGLE CENTRED;nRIGHT-POINTING TRIANGLE CENTRED;aNEPTUNE FORM TWO
aTOP HALF BLACK CIRCLE;aBOTTOM HALF BLACK CIRCLE;aLIGHT FOUR POINTED BLACK CUSP
aROTATED LIGHT FOUR POINTED BLACK CUSP;aWHITE FOUR POINTED CUSP;aROTATED WHITE FOUR POINTED CUSP
aSQUARE POSITION INDICATOR;aUNCERTAINTY SIGN;aGROUP MARK;aPLUTO FORM TWO;mHREE;lFOUR;mIVE
aTRANSPLUTO;aPROSERPINA;aASTRAEA;aHYGIEA;aPHOLUS;aNESSUS;aWHITE MOON SELENA;aBLACK DIAMOND ON CROSS
aTRUE LIGHT MOON ARTA;aCUPIDO;aHADES;aZEUS;aKRONOS;aAPOLLON;bDMETOS;aVULCANUS;aPOSEIDON
aLEFT HALF BLACK STAR;aRIGHT HALF BLACK STAR;aSTAR WITH LEFT HALF BLACK;kRIGHT HALF BLACK
aLEFTWARDS TWO-HEADED ARROW WITH TRIANGLE ARROWHEADS
aUPWARDS TWO-HEADED ARROW WITH TRIANGLE ARROWHEADS
aRIGHTWARDS TWO-HEADED ARROW WITH TRIANGLE ARROWHEADS
aDOWNWARDS TWO-HEADED ARROW WITH TRIANGLE ARROWHEADS;aERIS FORM ONE;kTWO;aSEDNA
aRUSSIAN ASTROLOGICAL SYMBOL VIGINTILE;zdNOVILE;zdQUINTILE;zdBINOVILE;zdSENTAGON;zdTREDECILE
aEQUALS SIGN WITH INFINITY BELOW;aUNITED SYMBOL;aSEPARATED SYMBOL;aDOUBLED SYMBOL;aPASSED SYMBOL
aREVERSED RIGHT ANGLE;aHELLSCHREIBER PAUSE SYMBOL;aGLAGOLITIC CAPITAL LETTER AZU;zbBUKY;zbVEDE
zbGLAGOLI;zbDOBRO;zbYESTU;zbZHIVETE;zbDZELO;zbZEMLJA;zbIZHE;zcNITIAL IZHE;zc;zbDJERVI;zbKAKO
zbLJUDIJE;zbMYSLITE;zbNASHI;zbONU;zbPOKOJI;zbRITSI;zbSLOVO;zbTVRIDO;zbUKU;zbFRITU;zbHERU;zbOTU;zbPE
zbSHTA;zbTSI;zbCHRIVI;zbSHA;zbYERU;zeI;zcATI;zbSPIDERY HA;zbYU;zbSMALL YUS;zk WITH TAIL;zbYO
zbIOTATED SMALL YUS;zbBIG YUS;zbIOTATED BIG YUS;zbFITA;zbIZHITSA;zbSHTAPIC;zbTROKUTASTI A
zbLATINATE MYSLITE;zbCAUDATE CHRIVI;lSMALL LETTER AZU;yBUKY;yVEDE;yGLAGOLI;yDOBRO;yYESTU;yZHIVETE
yDZELO;yZEMLJA;yIZHE;zaNITIAL IZHE;za;yDJERVI;yKAKO;yLJUDIJE;yMYSLITE;yNASHI;yONU;yPOKOJI;yRITSI
ySLOVO;yTVRIDO;yUKU;yFRITU;yHERU;yOTU;yPE;ySHTA;yTSI;yCHRIVI;ySHA;yYERU;zcI;zaATI;ySPIDERY HA;yYU
ySMALL YUS;zi WITH TAIL;yYO;yIOTATED SMALL YUS;yBIG YUS;yIOTATED BIG YUS;yFITA;yIZHITSA;ySHTAPIC
yTROKUTASTI A;yLATINATE MYSLITE;yCAUDATE CHRIVI;aLATIN CAPITAL LETTER L WITH DOUBLE BAR
gSMALL LETTER L WITH DOUBLE BAR;gCAPITAL LETTER L WITH MIDDLE TILDE;vP WITH STROKE;vR WITH TAIL
gSMALL LETTER A WITH STROKE;tT WITH DIAGONAL STROKE;gCAPITAL LETTER H WITH DESCENDER
gSMALL LETTER H WITH DESCENDER;gCAPITAL LETTER K WITH DESCENDER;gSMALL LETTER K WITH DESCENDER
gCAPITAL LETTER Z WITH DESCENDER;gSMALL LETTER Z WITH DESCENDER;gCAPITAL LETTER ALPHA;vM WITH HOOK
vTURNED A;zeLPHA;gSMALL LETTER V WITH RIGHT HOOK;gCAPITAL LETTER W WITH HOOK
gSMALL LETTER W WITH HOOK;tV WITH CURL;gCAPITAL LETTER HALF H;gSMALL LETTER HALF H;tTAILLESS PHI
tE WITH NOTCH;tTURNED R WITH TAIL;tO WITH LOW RING INSIDE;gLETTER SMALL CAPITAL TURNED E
gSUBSCRIPT SMALL LETTER J;aMODIFIER LETTER CAPITAL V;aLATIN CAPITAL LETTER S WITH SWASH TAIL
vZ WITH SWASH TAIL;aCOPTIC CAPITAL LETTER ALFA;hSMALL LETTER ALFA;hCAPITAL LETTER VIDA
hSMALL LETTER VIDA;hCAPITAL LETTER GAMMA;hSMALL LETTER GAMMA;hCAPITAL LETTER DALDA
hSMALL LETTER DALDA;hCAPITAL LETTER EIE;hSMALL LETTER EIE;hCAPITAL LETTER SOU;hSMALL LETTER SOU
hCAPITAL LETTER ZATA;hSMALL LETTER ZATA;hCAPITAL LETTER HATE;hSMALL LETTER HATE
hCAPITAL LETTER THETHE;hSMALL LETTER THETHE;hCAPITAL LETTER IAUDA;hSMALL LETTER IAUDA
hCAPITAL LETTER KAPA;hSMALL LETTER KAPA;hCAPITAL LETTER LAULA;hSMALL LETTER LAULA
hCAPITAL LETTER MI;hSMALL LETTER MI;hCAPITAL LETTER NI;hSMALL LETTER NI;hCAPITAL LETTER KSI
hSMALL LETTER KSI;hCAPITAL LETTER O;hSMALL LETTER O;hCAPITAL LETTER PI;hSMALL LETTER PI
hCAPITAL LETTER RO;hSMALL LETTER RO;hCAPITAL LETTER SIMA;hSMALL LETTER SIMA;hCAPITAL LETTER TAU
hSMALL LETTER TAU;hCAPITAL LETTER UA;hSMALL LETTER UA;hCAPITAL LETTER FI;hSMALL LETTER FI
hCAPITAL LETTER KHI;hSMALL LETTER KHI;hCAPITAL LETTER PSI;hSMALL LETTER PSI;hCAPITAL LETTER OOU
hSMALL LETTER OOU;hCAPITAL LETTER DIALECT-P ALEF;hSMALL LETTER DIALECT-P ALEF
hCAPITAL LETTER OLD COPTIC AIN;hSMALL LETTER OLD COPTIC AIN;hCAPITAL LETTER CRYPTOGRAMMIC EIE
hSMALL LETTER CRYPTOGRAMMIC EIE;hCAPITAL LETTER DIALECT-P KAPA;hSMALL LETTER DIALECT-P KAPA
hCAPITAL LETTER DIALECT-P NI;hSMALL LETTER DIALECT-P NI;hCAPITAL LETTER CRYPTOGRAMMIC NI
hSMALL LETTER CRYPTOGRAMMIC NI;hCAPITAL LETTER OLD COPTIC OOU;hSMALL LETTER OLD COPTIC OOU
hCAPITAL LETTER SAMPI;hSMALL LETTER SAMPI;hCAPITAL LETTER CROSSED SHEI;hSMALL LETTER CROSSED SHEI
hCAPITAL LETTER OLD COPTIC SHEI;hSMALL LETTER OLD COPTIC SHEI;hCAPITAL LETTER OLD COPTIC ESH
hSMALL LETTER OLD COPTIC ESH;hCAPITAL LETTER AKHMIMIC KHEI;hSMALL LETTER AKHMIMIC KHEI
hCAPITAL LETTER DIALECT-P HORI;hSMALL LETTER DIALECT-P HORI;hCAPITAL LETTER OLD COPTIC HORI
hSMALL LETTER OLD COPTIC HORI;hCAPITAL LETTER OLD COPTIC HA;hSMALL LETTER OLD COPTIC HA
hCAPITAL LETTER L-SHAPED HA;hSMALL LETTER L-SHAPED HA;hCAPITAL LETTER OLD COPTIC HEI
hSMALL LETTER OLD COPTIC HEI;hCAPITAL LETTER OLD COPTIC HAT;hSMALL LETTER OLD COPTIC HAT
hCAPITAL LETTER OLD COPTIC GANGIA;hSMALL LETTER OLD COPTIC GANGIA;hCAPITAL LETTER OLD COPTIC DJA
hSMALL LETTER OLD COPTIC DJA;hCAPITAL LETTER OLD COPTIC SHIMA;hSMALL LETTER OLD COPTIC SHIMA
hCAPITAL LETTER OLD NUBIAN SHIMA;hSMALL LETTER OLD NUBIAN SHIMA;hCAPITAL LETTER OLD NUBIAN NGI
hSMALL LETTER OLD NUBIAN NGI;hCAPITAL LETTER OLD NUBIAN NYI;hSMALL LETTER OLD NUBIAN NYI
hCAPITAL LETTER OLD NUBIAN WAU;hSMALL LETTER OLD NUBIAN WAU;iYMBOL KAI;oMI RO;oPI RO;oSTAUROS
oTAU RO;oKHI RO;oSHIMA SIMA;hCAPITAL LETTER CRYPTOGRAMMIC SHEI;hSMALL LETTER CRYPTOGRAMMIC SHEI
hCAPITAL LETTER CRYPTOGRAMMIC GANGIA;hSMALL LETTER CRYPTOGRAMMIC GANGIA;hCOMBINING NI ABOVE
rSPIRITUS ASPER;zbLENIS;iAPITAL LETTER BOHAIRIC KHEI;hSMALL LETTER BOHAIRIC KHEI
6hOLD NUBIAN FULL STOP;sDIRECT QUESTION MARK;sINDIRECT QUESTION MARK;sVERSE DIVIDER
hFRACTION ONE HALF;iULL STOP;hMORPHOLOGICAL DIVIDER;aGEORGIAN SMALL LETTER AN;wBAN;wGAN;wDON;wEN
wVIN;wZEN;wTAN;wIN;wKAN;wLAS;wMAN;wNAR;wON;wPAR;wZHAR;wRAE;wSAN;wTAR;wUN;wPHAR;wKHAR;wGHAN;wQAR
wSHIN;wCHIN;xAN;wJIL;wCIL;xHAR;wXAN;wJHAN;wHAE;xE;xIE;wWE;wHAR;xOE;2wYN;6wAEN;3aTIFINAGH LETTER YA
sB;tH;sG;tHH;qBERBER ACADEMY YAJ;qYAJ;sD;tH;tD;uH;rEY;rAF;sK;qTUAREG YAK;qYAKHH;sH
qBERBER ACADEMY YAH;qTUAREG YAH;qYAHH;sA;sKH;qTUAREG YAKH;qYAQ;qTUAREG YAQ;qYI;rAZH;qAHAGGAR YAZH
qTUAREG YAZH;qYAL;sM;sN;qTUAREG YAGN;zaNG;qYAP;rU;rAR;tR;sGH;qTUAREG YAGH;qAYER YAGH;qYAS;tS;tH;sT
tH;sCH;sTT;sV;sW;sY;sZ;qTAWELLEMET YAZ;qYAZZ;rE;rO;8jMODIFIER LETTER LABIALIZATION MARK
jSEPARATOR MARK;FjCONSONANT JOINER;aETHIOPIC SYLLABLE LOA;sMOA;sROA;sSOA;tHOA;sBOA;sTOA;sCOA;sNOA
tYOA;sGLOTTAL OA;sZOA;sDOA;tDOA;sJOA;sTHOA;sCHOA;sPHOA;tOA;sGGWA;vI;vEE;w;AsSSA;uU;uI;uAA;uEE;v;uO
2sCCA;uU;uI;uAA;uEE;v;uO;2sZZA;uU;uI;uAA;uEE;v;uO;2sCCHA;vU;vI;vAA;vEE;w;vO;2sQYA;uU;uI;uAA;uEE;v
uO;2sKYA;uU;uI;uAA;uEE;v;uO;2sXYA;uU;uI;uAA;uEE;v;uO;2sGYA;uU;uI;uAA;uEE;v;uO
2aCOMBINING CYRILLIC LETTER BE;zbVE;zbGHE;zbDE;zbZHE;zcE;zbKA;zbEL;zcM;zcN;zbO;zbPE;zbER;zcS;zbTE
zbHA;zbTSE;zbCHE;zbSHA;zdCHA;zbFITA;zbES-TE;zbA;zbIE;zbDJERV;zbMONOGRAPH UK;zbYAT;zcU;zbIOTIFIED A
zbLITTLE YUS;zbBIG YUS;zbIOTIFIED BIG YUS;aRIGHT ANGLE SUBSTITUTION MARKER
mDOTTED SUBSTITUTION MARKER;aLEFT SUBSTITUTION BRACKET;aRIGHT SUBSTITUTION BRACKET
aLEFT DOTTED SUBSTITUTION BRACKET;aRIGHT DOTTED SUBSTITUTION BRACKET;bAISED INTERPOLATION MARKER
hDOTTED INTERPOLATION MARKER;aDOTTED TRANSPOSITION MARKER;aLEFT TRANSPOSITION BRACKET
aRIGHT TRANSPOSITION BRACKET;bAISED SQUARE;aLEFT RAISED OMISSION BRACKET
aRIGHT RAISED OMISSION BRACKET;aEDITORIAL CORONIS;aPARAGRAPHOS;aFORKED PARAGRAPHOS
aREVERSED FORKED PARAGRAPHOS;aHYPODIASTOLE;aDOTTED OBELOS;cWNWARDS ANCORA;aUPWARDS ANCORA
aDOTTED RIGHT-POINTING ANGLE;cUBLE OBLIQUE HYPHEN;aINVERTED INTERROBANG;aPALM BRANCH
aHYPHEN WITH DIAERESIS;aTILDE WITH RING ABOVE;aLEFT LOW PARAPHRASE BRACKET
aRIGHT LOW PARAPHRASE BRACKET;aTILDE WITH DOT ABOVE;pBELOW;aLEFT VERTICAL BAR WITH QUILL
aRIGHT VERTICAL BAR WITH QUILL;aTOP LEFT HALF BRACKET;eRIGHT HALF BRACKET;aBOTTOM LEFT HALF BRACKET
hRIGHT HALF BRACKET;aLEFT SIDEWAYS U BRACKET;aRIGHT SIDEWAYS U BRACKET;aLEFT DOUBLE PARENTHESIS
aRIGHT DOUBLE PARENTHESIS;aTWO DOTS OVER ONE DOT PUNCTUATION;aONE DOT OVER TWO DOTS PUNCTUATION
aSQUARED FOUR DOT PUNCTUATION;aFIVE DOT MARK;aREVERSED QUESTION MARK;aVERTICAL TILDE;aRING POINT
aWORD SEPARATOR MIDDLE DOT;aTURNED COMMA;aRAISED DOT;hCOMMA;aTURNED SEMICOLON
aDAGGER WITH LEFT GUARD;mRIGHT GUARD;aTURNED DAGGER;bOP HALF SECTION SIGN;bWO-EM DASH;bHREE-EM DASH
aSTENOGRAPHIC FULL STOP;aVERTICAL SIX DOTS;aWIGGLY VERTICAL LINE;aCAPITULUM;aDOUBLE HYPHEN
aREVERSED COMMA;aDOUBLE LOW-REVERSED-9 QUOTATION MARK;bASH WITH LEFT UPTURN;bOUBLE SUSPENSION MARK
aINVERTED LOW KAVYKA;t WITH KAVYKA ABOVE;aLOW KAVYKA;k WITH DOT;aDOUBLE STACKED COMMA;cTTED SOLIDUS
aTRIPLE DAGGER;aMEDIEVAL COMMA;aPARAGRAPHUS MARK;bUNCTUS ELEVATUS MARK;aCORNISH VERSE DIVIDER
bROSS PATTY WITH RIGHT CROSSBAR;rLEFT CROSSBAR;aTIRONIAN SIGN CAPITAL ET;aMEDIEVAL EXCLAMATION MARK
jQUESTION MARK;aLEFT SQUARE BRACKET WITH STROKE;aRIGHT SQUARE BRACKET WITH STROKE
aLEFT SQUARE BRACKET WITH DOUBLE STROKE;aRIGHT SQUARE BRACKET WITH DOUBLE STROKE
aTOP HALF LEFT PARENTHESIS;jRIGHT PARENTHESIS;aBOTTOM HALF LEFT PARENTHESIS;mRIGHT PARENTHESIS
aOBLIQUE HYPHEN;23aCJK RADICAL REPEAT;mCLIFF;mSECOND ONE;tTWO;uHREE;mPERSON;mBOX;mTABLE;mKNIFE ONE
sTWO;mDIVINATION;mSEAL;nMALL ONE;sTWO;mLAME ONE;rTWO;sHREE;rFOUR;mSNAKE;mTHREAD;mSNOUT ONE;sTWO
mHEART ONE;sTWO;nAND;mRAP;2mCHOKE;mSUN;mMOON;mDEATH;mMOTHER;mCIVILIAN;mWATER ONE;sTWO;mFIRE
mPAW ONE;qTWO;mSIMPLIFIED HALF TREE TRUNK;mCOW;mDOG;mJADE;mBOLT OF CLOTH;mEYE;mSPIRIT ONE;tTWO
mBAMBOO;mSILK;mC-SIMPLIFIED SILK;mNET ONE;qTWO;rHREE;qFOUR;mMESH;mSHEEP;mRAM;mEWE;mOLD;mBRUSH ONE
sTWO;mMEAT;nORTAR;mGRASS ONE;sTWO;tHREE;mTIGER;mCLOTHES;mWEST ONE;rTWO;mC-SIMPLIFIED SEE
mSIMPLIFIED HORN;mHORN;mC-SIMPLIFIED SPEECH;zbHELL;mFOOT;mC-SIMPLIFIED CART;mSIMPLIFIED WALK
mWALK ONE;rTWO;mCITY;n-SIMPLIFIED GOLD;mLONG ONE;rTWO;mC-SIMPLIFIED LONG;zaGATE;mMOUND ONE;sTWO
mRAIN;mBLUE;mC-SIMPLIFIED TANNED LEATHER;zaLEAF;zaWIND;zaFLY;mEAT ONE;qTWO;rHREE;mC-SIMPLIFIED EAT
mHEAD;mC-SIMPLIFIED HORSE;mBONE;mGHOST;mC-SIMPLIFIED FISH;zaBIRD;zaSALT;mSIMPLIFIED WHEAT;xYELLOW
mC-SIMPLIFIED FROG;mJ-SIMPLIFIED EVEN;mC-SIMPLIFIED EVEN;mJ-SIMPLIFIED TOOTH;mC-SIMPLIFIED TOOTH
mJ-SIMPLIFIED DRAGON;mC-SIMPLIFIED DRAGON;mTURTLE;mJ-SIMPLIFIED TURTLE;mC-SIMPLIFIED TURTLE
DaKANGXI RADICAL ONE;pLINE;pDOT;pSLASH;qECOND;pHOOK;pTWO;pLID;pMAN;pLEGS;pENTER;qIGHT;pDOWN BOX
pCOVER;pICE;pTABLE;pOPEN BOX;pKNIFE;pPOWER;pWRAP;pSPOON;pRIGHT OPEN BOX;pHIDING ENCLOSURE;pTEN
pDIVINATION;pSEAL;pCLIFF;pPRIVATE;pAGAIN;pMOUTH;pENCLOSURE;qARTH;pSCHOLAR;pGO;r SLOWLY;pEVENING
pBIG;pWOMAN;pCHILD;pROOF;pINCH;pSMALL;pLAME;pCORPSE;pSPROUT;pMOUNTAIN;pRIVER;pWORK;pONESELF;pTURBAN
pDRY;pSHORT THREAD;pDOTTED CLIFF;pLONG STRIDE;pTWO HANDS;pSHOOT;pBOW;pSNOUT;pBRISTLE;pSTEP;pHEART
qALBERD;pDOOR;pHAND;pBRANCH;pRAP;pSCRIPT;pDIPPER;pAXE;pSQUARE;pNOT;pSUN;qAY;pMOON;pTREE;pLACK;pSTOP
pDEATH;pWEAPON;pDO NOT;pCOMPARE;pFUR;pCLAN;pSTEAM;pWATER;pFIRE;pCLAW;pFATHER;pDOUBLE X
pHALF TREE TRUNK;pSLICE;pFANG;pCOW;pDOG;pPROFOUND;pJADE;pMELON;pTILE;pSWEET;pLIFE;pUSE;pFIELD
pBOLT OF CLOTH;pSICKNESS;pDOTTED TENT;pWHITE;pSKIN;pDISH;pEYE;pSPEAR;pARROW;pSTONE;qPIRIT;pTRACK
pGRAIN;pCAVE;pSTAND;pBAMBOO;pRICE;pSILK;pJAR;pNET;pSHEEP;pFEATHER;pOLD;pAND;pPLOW;pEAR;pBRUSH;pMEAT
qINISTER;pSELF;pARRIVE;pMORTAR;pTONGUE;pOPPOSE;pBOAT;pSTOPPING;pCOLOR;pGRASS;pTIGER;pINSECT;pBLOOD
pWALK ENCLOSURE;pCLOTHES;pWEST;pSEE;pHORN;pSPEECH;pVALLEY;pBEAN;pPIG;pBADGER;pSHELL;pRED;qUN;pFOOT
pBODY;pCART;pBITTER;pMORNING;pWALK;pCITY;pWINE;pDISTINGUISH;pVILLAGE;pGOLD;pLONG;pGATE;pMOUND
pSLAVE;qHORT TAILED BIRD;pRAIN;pBLUE;pWRONG;pFACE;pLEATHER;pTANNED LEATHER;pLEEK;pSOUND;pLEAF;pWIND
pFLY;pEAT;pHEAD;pFRAGRANT;pHORSE;pBONE;pTALL;pHAIR;pFIGHT;pSACRIFICIAL WINE;pCAULDRON;pGHOST;pFISH
pBIRD;pSALT;pDEER;pWHEAT;pHEMP;pYELLOW;pMILLET;pBLACK;pEMBROIDERY;pFROG;pTRIPOD;pDRUM;pRAT;pNOSE
pEVEN;pTOOTH;pDRAGON;pTURTLE;pFLUTE;1BaIDEOGRAPHIC DESCRIPTION CHARACTER LEFT TO RIGHT
zjABOVE TO BELOW;zjLEFT TO MIDDLE AND RIGHT;zjABOVE TO MIDDLE AND BELOW;zjFULL SURROUND
zjSURROUND FROM ABOVE;zxBELOW;zxLEFT;zxUPPER LEFT;zzPER RIGHT;zxLOWER LEFT;zjOVERLAID;5mSPACE
mCOMMA;mFULL STOP;aDITTO MARK;aJAPANESE INDUSTRIAL STANDARD SYMBOL;aIDEOGRAPHIC ITERATION MARK
mCLOSING MARK;mNUMBER ZERO;aLEFT ANGLE BRACKET;aRIGHT ANGLE BRACKET;aLEFT DOUBLE ANGLE BRACKET
aRIGHT DOUBLE ANGLE BRACKET;aLEFT CORNER BRACKET;aRIGHT CORNER BRACKET;aLEFT WHITE CORNER BRACKET
aRIGHT WHITE CORNER BRACKET;aLEFT BLACK LENTICULAR BRACKET;aRIGHT BLACK LENTICULAR BRACKET
aPOSTAL MARK;aGETA MARK;aLEFT TORTOISE SHELL BRACKET;aRIGHT TORTOISE SHELL BRACKET
aLEFT WHITE LENTICULAR BRACKET;aRIGHT WHITE LENTICULAR BRACKET;aLEFT WHITE TORTOISE SHELL BRACKET
aRIGHT WHITE TORTOISE SHELL BRACKET;aLEFT WHITE SQUARE BRACKET;aRIGHT WHITE SQUARE BRACKET
aWAVE DASH;aREVERSED DOUBLE PRIME QUOTATION MARK;aDOUBLE PRIME QUOTATION MARK
aLOW DOUBLE PRIME QUOTATION MARK;aPOSTAL MARK FACE;aHANGZHOU NUMERAL ONE;rTWO;sHREE;rFOUR;sIVE;rSIX
sEVEN;rEIGHT;rNINE;aIDEOGRAPHIC LEVEL TONE MARK;mRISING TONE MARK;mDEPARTING TONE MARK
mENTERING TONE MARK;aHANGUL SINGLE DOT TONE MARK;hDOUBLE DOT TONE MARK;aWAVY DASH
aVERTICAL KANA REPEAT MARK;vWITH VOICED SOUND MARK;vMARK UPPER HALF
vWITH VOICED SOUND MARK UPPER HALF;vMARK LOWER HALF;aCIRCLED POSTAL MARK
aIDEOGRAPHIC TELEGRAPH LINE FEED SEPARATOR SYMBOL;aHANGZHOU NUMERAL TEN;sWENTY;sHIRTY
aVERTICAL IDEOGRAPHIC ITERATION MARK;aMASU MARK;aPART ALTERNATION MARK
aIDEOGRAPHIC VARIATION INDICATOR;mHALF FILL SPACE;2aHIRAGANA LETTER SMALL A;qA;qSMALL I;qI;qSMALL U
qU;qSMALL E;qE;qSMALL O;qO;qKA;qGA;qKI;qGI;qKU;qGU;qKE;qGE;qKO;qGO;qSA;qZA;qSI;qZI;qSU;qZU;qSE;qZE
qSO;qZO;qTA;qDA;qTI;qDI;qSMALL TU;qTU;qDU;qTE;qDE;qTO;qDO;qNA;rI;rU;rE;rO;qHA;qBA;qPA;qHI;qBI;qPI
qHU;qBU;qPU;qHE;qBE;qPE;qHO;qBO;qPO;qMA;rI;rU;rE;rO;qSMALL YA;qYA;qSMALL YU;qYU;qSMALL YO;qYO;qRA
rI;rU;rE;rO;qSMALL WA;qWA;rI;rE;rO;qN;qVU;qSMALL KA;xE
3aCOMBINING KATAKANA-HIRAGANA VOICED SOUND MARK;zdSEMI-VOICED SOUND MARK
aKATAKANA-HIRAGANA VOICED SOUND MARK;sSEMI-VOICED SOUND MARK;aHIRAGANA ITERATION MARK
jVOICED ITERATION MARK;jDIGRAPH YORI;aKATAKANA-HIRAGANA DOUBLE HYPHEN;i LETTER SMALL A;qA;qSMALL I
qI;qSMALL U;qU;qSMALL E;qE;qSMALL O;qO;qKA;qGA;qKI;qGI;qKU;qGU;qKE;qGE;qKO;qGO;qSA;qZA;qSI;qZI;qSU
qZU;qSE;qZE;qSO;qZO;qTA;qDA;qTI;qDI;qSMALL TU;qTU;qDU;qTE;qDE;qTO;qDO;qNA;rI;rU;rE;rO;qHA;qBA;qPA
qHI;qBI;qPI;qHU;qBU;qPU;qHE;qBE;qPE;qHO;qBO;qPO;qMA;rI;rU;rE;rO;qSMALL YA;qYA;qSMALL YU;qYU
qSMALL YO;qYO;qRA;rI;rU;rE;rO;qSMALL WA;qWA;rI;rE;rO;qN;qVU;qSMALL KA;xE;qVA;rI;rE;rO;jMIDDLE DOT
i-HIRAGANA PROLONGED SOUND MARK;i ITERATION MARK;jVOICED ITERATION MARK;jDIGRAPH KOTO
6aBOPOMOFO LETTER B;qP;qM;qF;qD;qT;qN;qL;qG;qK;qH;qJ;qQ;qX;qZH;qCH;qSH;qR;qZ;qC;qS;qA;qO;qE;rH;qAI
qEI;qAU;qOU;qAN;qEN;qANG;qENG;rR;qI;qU;qIU;qV;qNG;qGN;qIH;qO WITH DOT ABOVE;qNN
2aHANGUL LETTER KIYEOK;oSSANGKIYEOK;oKIYEOK-SIOS;oNIEUN;t-CIEUC;uHIEUH;oTIKEUT;oSSANGTIKEUT;oRIEUL
t-KIYEOK;uMIEUM;uPIEUP;uSIOS;uTHIEUTH;uPHIEUPH;uHIEUH;oMIEUM;oPIEUP;oSSANGPIEUP;oPIEUP-SIOS;oSIOS
pSANGSIOS;oIEUNG;oCIEUC;oSSANGCIEUC;oCHIEUCH;oKHIEUKH;oTHIEUTH;oPHIEUPH;oHIEUH;oA;pE;oYA;qE;oEO;p
oYEO;q;oO;oWA;qE;oOE;oYO;oU;oWEO;q;pI;oYU;oEU;oYI;oI;hFILLER;hLETTER SSANGNIEUN;oNIEUN-TIKEUT;uSIOS
uPANSIOS;oRIEUL-KIYEOK-SIOS;uTIKEUT;uPIEUP-SIOS;vANSIOS;uYEORINHIEUH;oMIEUM-PIEUP;uSIOS;uPANSIOS
oKAPYEOUNMIEUM;oPIEUP-KIYEOK;uTIKEUT;uSIOS-KIYEOK;zaTIKEUT;uCIEUC;uTHIEUTH;oKAPYEOUNPIEUP
wSSANGPIEUP;oSIOS-KIYEOK;tNIEUN;tTIKEUT;tPIEUP;tCIEUC;oPANSIOS;oSSANGIEUNG;oYESIEUNG;w-SIOS
xPANSIOS;oKAPYEOUNPHIEUPH;oSSANGHIEUH;oYEORINHIEUH;pO-YA;tE;rI;pU-YEO;t;rI;oARAEA;tE
2aIDEOGRAPHIC ANNOTATION LINKING MARK;xREVERSE MARK;xONE MARK;xTWO MARK;yHREE MARK;xFOUR MARK
xTOP MARK;xMIDDLE MARK;xBOTTOM MARK;xFIRST MARK;xSECOND MARK;xTHIRD MARK;xFOURTH MARK;xHEAVEN MARK
xEARTH MARK;xMAN MARK;aBOPOMOFO LETTER BU;qZI;qJI;qGU;qEE;rNN;qOO;rNN;qIR;qANN;qINN;qUNN;qIM;qNGG
qAINN;rUNN;rM;qOM;rNG;qINNN;jFINAL LETTER P;wT;wK;wH;jLETTER GH;qLH;qZY;jFINAL LETTER G;jLETTER GW
qKW;qOE;qAH;aCJK STROKE T;lWG;lXG;lBXG;lSW;lHZZ;nG;mP;mZWG;lSZWG;lHZT;nZP;mPWG;mZW;nZZ;lN;lH;lS;lP
lSP;lD;lHZ;mG;lSZ;mWZ;mT;mG;lPD;mZ;lTN;lSZZ;mWG;lHXWG;mZZZG;lPG;lQ;DaKATAKANA LETTER SMALL KU;wSI
xU;wTO;wNU;wHA;xI;xU;xE;xO;wMU;wRA;xI;xU;xE;xO;aPARENTHESIZED HANGUL KIYEOK;vNIEUN;vTIKEUT;vRIEUL
vMIEUM;vPIEUP;vSIOS;vIEUNG;vCIEUC;wHIEUCH;vKHIEUKH;vTHIEUTH;vPHIEUPH;vHIEUH;vKIYEOK A;vNIEUN A
vTIKEUT A;vRIEUL A;vMIEUM A;vPIEUP A;vSIOS A;vIEUNG A;vCIEUC A;wHIEUCH A;vKHIEUKH A;vTHIEUTH A
vPHIEUPH A;vHIEUH A;vCIEUC U;oKOREAN CHARACTER OJEON;zh HU;2oIDEOGRAPH ONE;yTWO;zaHREE;yFOUR;zaIVE
ySIX;zaEVEN;yEIGHT;yNINE;yTEN;yMOON;yFIRE;yWATER;zaOOD;yMETAL;yEARTH;ySUN;zaTOCK;yHAVE;ySOCIETY
yNAME;ySPECIAL;yFINANCIAL;yCONGRATULATION;yLABOR;yREPRESENT;yCALL;ySTUDY;zaUPERVISE;yENTERPRISE
yRESOURCE;yALLIANCE;yFESTIVAL;yREST;ySELF;yREACH;aCIRCLED IDEOGRAPH QUESTION;sKINDERGARTEN;sSCHOOL
sKOTO;iNUMBER TEN ON BLACK SQUARE;qWENTY ON BLACK SQUARE;qHIRTY ON BLACK SQUARE
pFORTY ON BLACK SQUARE;qIFTY ON BLACK SQUARE;pSIXTY ON BLACK SQUARE;qEVENTY ON BLACK SQUARE
pEIGHTY ON BLACK SQUARE;aPARTNERSHIP SIGN;aCIRCLED NUMBER TWENTY ONE;wTWO;xHREE;wFOUR;xIVE;wSIX
xEVEN;wEIGHT;wNINE;qHIRTY;v ONE;wTWO;xHREE;wFOUR;xIVE;iHANGUL KIYEOK;pNIEUN;pTIKEUT;pRIEUL;pMIEUM
pPIEUP;pSIOS;pIEUNG;pCIEUC;qHIEUCH;pKHIEUKH;pTHIEUTH;pPHIEUPH;pHIEUH;pKIYEOK A;pNIEUN A;pTIKEUT A
pRIEUL A;pMIEUM A;pPIEUP A;pSIOS A;pIEUNG A;pCIEUC A;qHIEUCH A;pKHIEUKH A;pTHIEUTH A;pPHIEUPH A
pHIEUH A;iKOREAN CHARACTER CHAMKO;zaJUEUI;iHANGUL IEUNG U;aKOREAN STANDARD SYMBOL
aCIRCLED IDEOGRAPH ONE;sTWO;tHREE;sFOUR;tIVE;sSIX;tEVEN;sEIGHT;sNINE;sTEN;sMOON;sFIRE;sWATER;tOOD
sMETAL;sEARTH;sSUN;tTOCK;sHAVE;sSOCIETY;sNAME;sSPECIAL;sFINANCIAL;sCONGRATULATION;sLABOR;sSECRET
sMALE;sFEMALE;sSUITABLE;sEXCELLENT;sPRINT;sATTENTION;sITEM;sREST;sCOPY;uRRECT;sHIGH;sCENTRE;sLOW
tEFT;sRIGHT;sMEDICINE;sRELIGION;sSTUDY;tUPERVISE;sENTERPRISE;sRESOURCE;sALLIANCE;sNIGHT
iNUMBER THIRTY SIX;xEVEN;wEIGHT;wNINE;pFORTY;u ONE;vTWO;wHREE;vFOUR;wIVE;vSIX;wEVEN;vEIGHT;vNINE
qIFTY;aIDEOGRAPHIC TELEGRAPH SYMBOL FOR JANUARY;ziFEBRUARY;ziMARCH;ziAPRIL;ziMAY;ziJUNE;zkLY
ziAUGUST;ziSEPTEMBER;ziOCTOBER;ziNOVEMBER;ziDECEMBER;aSQUARE HG;hERG;iV;aLIMITED LIABILITY SIGN
aCIRCLED KATAKANA A;rI;rU;rE;rO;rKA;sI;sU;sE;sO;rSA;sI;sU;sE;sO;rTA;sI;sU;sE;sO;rNA;sI;sU;sE;sO;rHA
sI;sU;sE;sO;rMA;sI;sU;sE;sO;rYA;sU;sO;rRA;sI;sU;sE;sO;rWA;sI;sE;sO;aSQUARE ERA NAME REIWA;hAPAATO
iRUHUA;iNPEA;iARU;hININGU;jTI;hUON;hESUKUUDO;iEKAA;hONSU;iOMU;hKAIRI;jRATTO;kORII;hGARON;jNMA;iIGA
jNII;hKYURII;hGIRUDAA;hKIRO;lGURAMU;lMEETORU;lWATTO;hGURAMU;nTON;hKURUZEIRO;kOONE;iEESU;iORUNA;jOPO
hSAIKURU;jNTIIMU;iIRINGU;iENTI;lO;hDAASU;iESI;iORU;hTON;hNANO;iOTTO;hHAITU;hPAASENTO;kTU;hBAARERU
hPIASUTORU;jKURU;kO;hBIRU;hHUARADDO;jIITO;hBUSSYERU;hHURAN;iEKUTAARU;hPESO;jNIHI;hHERUTU;hPENSU
jEZI;hBEETA;hPOINTO;hBORUTO;hHON;hPONDO;hHOORU;kN;hMAIKURO;kRU;jHHA;jRUKU;jNSYON;iIKURON;jRI;lBAARU
iEGA;lTON;jETORU;hYAADO;kRU;iUAN;hRITTORU;jRA;iUPII;jUBURU;iEMU;jNTOGEN;hWATTO
aIDEOGRAPHIC TELEGRAPH SYMBOL FOR HOUR ZERO;znONE;znTWO;zoHREE;znFOUR;zoIVE;znSIX;zoEVEN;znEIGHT
znNINE;znTEN;znELEVEN;znTWELVE;zoHIRTEEN;znFOURTEEN;zoIFTEEN;znSIXTEEN;zoEVENTEEN;znEIGHTEEN
znNINETEEN;znTWENTY;zt-ONE;zuTWO;zvHREE;zuFOUR;aSQUARE HPA;hDA;hAU;hBAR;hOV;hPC;hDM;j SQUARED
kCUBED;hIU;hERA NAME HEISEI;qSYOUWA;qTAISYOU;qMEIZI;hCORPORATION;hPA AMPS;hNA;hMU A;iA;hKA;iB;hMB
hGB;hCAL;hKCAL;hPF;hNF;hMU F;kG;iG;hKG;hHZ;hKHZ;hMHZ;hGHZ;hTHZ;hMU L;iL;hDL;hKL;hFM;hNM;hMU M;iM
hCM;hKM;hMM SQUARED;hCM SQUARED;hM SQUARED;hKM SQUARED;hMM CUBED;hCM CUBED;hM CUBED;hKM CUBED
hM OVER S;p SQUARED;hPA;hKPA;hMPA;hGPA;hRAD;k OVER S;r SQUARED;hPS;hNS;hMU S;iS;hPV;hNV;hMU V;iV
hKV;hMV MEGA;hPW;hNW;hMU W;iW;hKW;hMW MEGA;hK OHM;hM OHM;hAM;hBQ;hCC;iD;i OVER KG;iO;hDB;hGY;hHA;iP
hIN;hKK;iM CAPITAL;iT;hLM;iN;iOG;iX;hMB SMALL;iIL;iOL;hPH;iM;iPM;iR;hSR;iV;hWB;hV OVER M;hA OVER M
aIDEOGRAPHIC TELEGRAPH SYMBOL FOR DAY ONE;zmTWO;znHREE;zmFOUR;znIVE;zmSIX;znEVEN;zmEIGHT;zmNINE
zmTEN;zmELEVEN;zmTWELVE;znHIRTEEN;zmFOURTEEN;znIFTEEN;zmSIXTEEN;znEVENTEEN;zmEIGHTEEN;zmNINETEEN
zmTWENTY;zs-ONE;ztTWO;zuHREE;ztFOUR;zuIVE;ztSIX;zuEVEN;ztEIGHT;ztNINE;znHIRTY;zs-ONE;aSQUARE GAL
19C1aHEXAGRAM FOR THE CREATIVE HEAVEN;rRECEPTIVE EARTH;nDIFFICULTY AT THE BEGINNING;nYOUTHFUL FOLLY
nWAITING;nCONFLICT;nTHE ARMY;nHOLDING TOGETHER;nSMALL TAMING;nTREADING;nPEACE;nSTANDSTILL
nFELLOWSHIP;nGREAT POSSESSION;nMODESTY;nENTHUSIASM;nFOLLOWING;nWORK ON THE DECAYED;nAPPROACH
nCONTEMPLATION;nBITING THROUGH;nGRACE;nSPLITTING APART;nRETURN;nINNOCENCE;nGREAT TAMING
nMOUTH CORNERS;nGREAT PREPONDERANCE;nTHE ABYSMAL WATER;rCLINGING FIRE;nINFLUENCE;nDURATION;nRETREAT
nGREAT POWER;nPROGRESS;nDARKENING OF THE LIGHT;nTHE FAMILY;nOPPOSITION;oBSTRUCTION;nDELIVERANCE
pCREASE;nINCREASE;nBREAKTHROUGH;nCOMING TO MEET;nGATHERING TOGETHER;nPUSHING UPWARD;nOPPRESSION
nTHE WELL;nREVOLUTION;nTHE CAULDRON;rAROUSING THUNDER;rKEEPING STILL MOUNTAIN;nDEVELOPMENT
nTHE MARRYING MAIDEN;nABUNDANCE;nTHE WANDERER;rGENTLE WIND;rJOYOUS LAKE;nDISPERSION;nLIMITATION
nINNER TRUTH;nSMALL PREPONDERANCE;nAFTER COMPLETION;nBEFORE COMPLETION;5201aYI SYLLABLE IT;nX;n;nP
nET;oX;o;oP;mAT;nX;n;nP;mUOX;o;oP;mOT;nX;n;nP;mEX;n;mITERATION MARK;0mWU;mBIT;oX;o;oP;oET;pX;p;pP
nAT;oX;o;oP;nUOX;p;pP;nOT;oX;o;oP;nEX;o;oP;nUT;oX;o;oP;oRX;p;nYT;oX;o;oP;oRX;p;mPIT;oX;o;oP;oEX;p
pP;nAT;oX;o;oP;nUOX;p;pP;nOT;oX;o;oP;nUT;oX;o;oP;oRX;p;nYT;oX;o;oP;oRX;p;mBBIT;pX;p;pP;pET;qX;q;qP
oAT;pX;p;pP;oUOX;q;qP;oOT;pX;p;pP;oEX;p;pP;oUT;pX;p;pP;pRX;q;oYT;pX;p;pP;mNBIT;pX;p;pP;pEX;q;qP;oAT
pX;p;pP;oOT;pX;p;pP;oUT;pX;p;pP;pRX;q;oYT;pX;p;pP;pRX;q;mHMIT;pX;p;pP;pEX;q;qP;oAT;pX;p;pP;oUOX;q
qP;oOT;pX;p;pP;oUT;pX;p;pP;pRX;q;oYX;p;pP;pRX;q;mMIT;oX;o;oP;oEX;p;pP;nAT;oX;o;oP;nUOT;pX;p;pP;nOT
oX;o;oP;nEX;o;nUT;oX;o;oP;oRX;p;nYT;oX;o;oP;mFIT;oX;o;oP;nAT;oX;o;oP;nOX;o;oP;nUT;oX;o;oP;oRX;p;nYT
oX;o;oP;mVIT;oX;o;oP;oET;pX;p;pP;nAT;oX;o;oP;nOT;oX;o;oP;nEX;oP;nUT;oX;o;oP;oRX;p;nYT;oX;o;oP;oRX;p
mDIT;oX;o;oP;oEX;p;pP;nAT;oX;o;oP;nUOX;p;nOT;oX;o;oP;nEX;o;oP;nUT;oX;o;oP;oRX;p;mTIT;oX;o;oP;oEX;p
pP;nAT;oX;o;oP;nUOT;pX;p;pP;nOT;oX;o;oP;nEX;o;oP;nUT;oX;o;oP;oRX;p;mDDIT;pX;p;pP;pEX;q;qP;oAT;pX;p
pP;oUOX;q;qP;oOT;pX;p;pP;oEX;p;pP;oUT;pX;p;pP;pRX;q;mNDIT;pX;p;pP;pEX;q;oAT;pX;p;pP;oOT;pX;p;pP;oEX
p;pP;oUT;pX;p;pP;pRX;q;mHNIT;pX;p;pP;pET;qX;q;qP;oAT;pX;p;pP;oUOX;q;oOT;pX;pP;oEX;p;pP;oUT;mNIT;oX
o;oP;oEX;p;pP;nAX;o;oP;nUOX;p;pP;nOT;oX;o;oP;nEX;o;oP;nUT;oX;o;oP;oRX;p;mHLIT;pX;p;pP;pEX;q;qP;oAT
pX;p;pP;oUOX;q;qP;oOX;p;pP;oEX;p;pP;oUT;pX;p;pP;pRX;q;oYT;pX;p;pP;pRX;q;mLIT;oX;o;oP;oET;pX;p;pP
nAT;oX;o;oP;nUOT;pX;p;pP;nOT;oX;o;oP;nEX;o;oP;nUT;oX;o;oP;oRX;p;nYT;oX;o;oP;oRX;p;mGIT;oX;o;oP;oET
pX;p;pP;nAT;oX;o;oP;nUOT;pX;p;pP;nOT;oX;o;oP;nET;oX;o;oP;nUT;oX;o;oP;oRX;p;mKIT;oX;o;oP;oEX;p;pP
nAT;oX;o;oP;nUOX;p;pP;nOT;oX;o;oP;nET;oX;o;oP;nUT;oX;o;oP;oRX;p;mGGIT;pX;p;pEX;q;qP;oAT;pX;p;pP
oUOT;qX;q;qP;oOT;pX;p;pP;oET;pX;p;pP;oUT;pX;p;pP;pRX;q;mMGIEX;q;oAT;pX;p;pP;oUOX;q;qP;oOT;pX;p;pP
oEX;p;pP;oUT;pX;p;pP;pRX;q;mHXIT;pX;p;pP;pET;qX;q;qP;oAT;pX;p;pP;oUOT;qX;q;qP;oOT;pX;p;pP;oEX;p;pP
mNGIEX;q;qP;oAT;pX;p;pP;oUOT;qX;q;oOT;pX;p;pP;oEX;p;pP;mHIT;oEX;p;nAT;oX;o;oP;nUOT;pX;p;pP;nOT;oX;o
oP;nEX;o;oP;mWAT;oX;o;oP;nUOX;p;pP;nOX;o;oP;nEX;o;oP;mZIT;oX;o;oP;oEX;p;pP;nAT;oX;o;oP;nUOX;p;pP
nOT;oX;o;oP;nEX;o;oP;nUT;oX;o;oP;oRX;p;nYT;oX;o;oP;oRX;p;mCIT;oX;o;oP;oET;pX;p;pP;nAT;oX;o;oP;nUOX
p;pP;nOT;oX;o;oP;nEX;o;oP;nUT;oX;o;oP;oRX;p;nYT;oX;o;oP;oRX;p;mZZIT;pX;p;pP;pET;qX;q;qP;oAT;pX;p;pP
oOX;p;pP;oEX;p;pP;oUX;p;pP;pRX;q;oYT;pX;p;pP;pRX;q;mNZIT;pX;p;pP;pEX;q;qP;oAT;pX;p;pP;oUOX;q;oOX;pP
oEX;p;oUX;p;pP;pRX;q;oYT;pX;p;pP;pRX;q;mSIT;oX;o;oP;oEX;p;pP;nAT;oX;o;oP;nUOX;p;pP;nOT;oX;o;oP;nEX
o;oP;nUT;oX;o;oP;oRX;p;nYT;oX;o;oP;oRX;p;nSIT;pX;p;pP;pEX;q;qP;oAT;pX;p;pP;oOT;pX;p;pP;oEX;p;pP;oUT
pX;p;pP;oYT;pX;p;pP;pRX;q;mZHAT;pX;p;pP;oUOX;q;qP;oOT;pX;p;pP;oET;pX;p;pP;oUT;pX;p;pP;pRX;q;oYT;pX
p;pP;pRX;q;mCHAT;pX;p;pP;oUOT;qX;q;qP;oOT;pX;p;pP;oET;pX;p;pP;oUX;p;pP;pRX;q;oYT;pX;p;pP;pRX;q
mRRAX;p;oUOX;q;oOT;pX;p;pP;oET;pX;p;pP;oUT;pX;p;pP;pRX;q;oYT;pX;p;pP;pRX;q;mNRAT;pX;p;pP;oOX;p;pP
oET;pX;p;pP;oUT;pX;p;pP;pRX;q;oYT;pX;p;pP;pRX;q;mSHAT;pX;p;pP;oUOX;q;qP;oOT;pX;p;pP;oET;pX;p;pP;oUT
pX;p;pP;pRX;q;oYT;pX;p;pP;pRX;q;mRAT;oX;o;oP;nUOX;p;pP;nOT;oX;o;oP;nEX;o;oP;nUT;oX;o;oP;oRX;p;nYT
oX;o;oP;oRX;p;mJIT;oX;o;oP;oET;pX;p;pP;nUOT;pX;p;pP;nOT;oX;o;oP;nUT;oX;o;oP;oRX;p;nYT;oX;o;oP;oRX;p
mQIT;oX;o;oP;oET;pX;p;pP;nUOT;pX;p;pP;nOT;oX;o;oP;nUT;oX;o;oP;oRX;p;nYT;oX;o;oP;oRX;p;mJJIT;pX;p;pP
pET;qX;q;qP;oUOX;q;qP;oOT;pX;p;pP;oUT;pX;p;pP;pRX;q;oYT;pX;p;pP;mNJIT;pX;p;pP;pET;qX;q;qP;oUOX;q
oOT;pX;p;pP;oUX;p;pP;pRX;q;oYT;pX;p;pP;pRX;q;nYIT;pX;p;pP;pET;qX;q;qP;oUOX;q;qP;oOT;pX;p;pP;oUT;pX
p;pP;mXIT;oX;o;oP;oET;pX;p;pP;nUOX;p;nOT;oX;o;oP;nYT;oX;o;oP;oRX;p;mYIT;oX;o;oP;oET;pX;p;pP;nUOT;pX
p;pP;nOT;oX;o;oP;nUT;oX;o;oP;oRX;p;nYT;oX;o;oP;oRX;p;4dRADICAL QOT;lLI;lKIT;lNYIP;lCYP;lSSI;lGGOP
mEP;lMI;lHXIT;lLYR;lBBUT;lMOP;lYO;lPUT;lHXUO;lTAT;lGA;lZUP;lCYT;lDDUR;lBUR;lGGUO;lNYOP;lTU;lOP
lJJUT;lZOT;lPYT;lHMO;lYIT;lVUR;lSHY;lVEP;lZA;lJO;lNZUP;lJJY;lGOT;lJJIE;lWO;lDU;lSHUR;lLIE;lCY;mUOP
mIP;lHXOP;lSHAT;lZUR;lSHOP;lCHE;lZZIET;lNBIE;lKE;AaLISU LETTER BA;mPA;nHA;mDA;mTA;nHA;mGA;mKA;nHA
mJA;mCA;nHA;mDZA;mTSA;oHA;mMA;mNA;mLA;mSA;mZHA;nA;mNGA;mHA;mXA;mHHA;mFA;mWA;mSHA;mYA;mGHA;mA;nE;mE
nU;mI;mO;mU;nE;nH;mOE;mTONE MYA TI;rNA PO;rMYA CYA;vBO;vNA;vJEU;fPUNCTUATION COMMA;rFULL STOP
aVAI SYLLABLE EE;pN;nHEE;nWEE;qN;nPEE;nBHEE;oEE;nMBEE;nKPEE;nMGBEE;nGBEE;nFEE;nVEE;nTEE;oHEE;nDHEE
pHEE;nLEE;nREE;nDEE;nNDEE;nSEE;oHEE;nZEE;oHEE;nCEE;nJEE;nNJEE;nYEE;nKEE;nNGGEE;nGEE;nMEE;nNEE;oYEE
nI;oN;nHI;pN;nWI;pN;nPI;nBHI;oI;nMBI;nKPI;nMGBI;nGBI;nFI;nVI;nTI;oHI;nDHI;pHI;nLI;nRI;nDI;nNDI;nSI
oHI;nZI;oHI;nCI;nJI;nNJI;nYI;nKI;nNGGI;nGI;nMI;nNI;oYI;nA;oN;nNGAN;nHA;pN;nWA;pN;nPA;nBHA;oA;nMBA
nKPA;qN;nMGBA;nGBA;nFA;nVA;nTA;oHA;nDHA;pHA;nLA;nRA;nDA;nNDA;nSA;oHA;nZA;oHA;nCA;nJA;nNJA;nYA;nKA
pN;nNGGA;nGA;nMA;nNA;oYA;nOO;pN;nHOO;nWOO;qN;nPOO;nBHOO;oOO;nMBOO;nKPOO;nMGBOO;nGBOO;nFOO;nVOO;nTOO
oHOO;nDHOO;pHOO;nLOO;nROO;nDOO;nNDOO;nSOO;oHOO;nZOO;oHOO;nCOO;nJOO;nNJOO;nYOO;nKOO;nNGGOO;nGOO;nMOO
nNOO;oYOO;nU;oN;nHU;pN;nWU;pN;nPU;nBHU;oU;nMBU;nKPU;nMGBU;nGBU;nFU;nVU;nTU;oHU;nDHU;pHU;nLU;nRU;nDU
nNDU;nSU;oHU;nZU;oHU;nCU;nJU;nNJU;nYU;nKU;nNGGU;nGU;nMU;nNU;oYU;nO;oN;nNGON;nHO;pN;nWO;pN;nPO;nBHO
oO;nMBO;nKPO;nMGBO;nGBO;qN;nFO;nVO;nTO;oHO;nDHO;pHO;nLO;nRO;nDO;nNDO;nSO;oHO;nZO;oHO;nCO;nJO;nNJO
nYO;nKO;nNGGO;nGO;nMO;nNO;oYO;nE;oN;nNGEN;nHE;pN;nWE;pN;nPE;nBHE;oE;nMBE;nKPE;qN;nMGBE;nGBE;qN;nFE
nVE;nTE;oHE;nDHE;pHE;nLE;nRE;nDE;nNDE;nSE;oHE;nZE;oHE;nCE;nJE;nNJE;nYE;nKE;nNGGE;rN;nGE;pN;nME;nNE
oYE;oG;nLENGTHENER;eCOMMA;eFULL STOP;eQUESTION MARK;eSYLLABLE NDOLE FA;tKA;tSOO;gMBOL FEENG;lKEENG
lTING;lNII;lBANG;lFAA;lTAA;lDANG;mOONG;lKUNG;lTONG;lDO-O;lJONG;eDIGIT ZERO;kONE;kTWO;lHREE;kFOUR
lIVE;kSIX;lEVEN;kEIGHT;kNINE;eSYLLABLE NDOLE MA;tDO;15aCYRILLIC CAPITAL LETTER ZEMLYA
jSMALL LETTER ZEMLYA;jCAPITAL LETTER DZELO;jSMALL LETTER DZELO;jCAPITAL LETTER REVERSED DZE
jSMALL LETTER REVERSED DZE;jCAPITAL LETTER IOTA;jSMALL LETTER IOTA;jCAPITAL LETTER DJERV
jSMALL LETTER DJERV;jCAPITAL LETTER MONOGRAPH UK;jSMALL LETTER MONOGRAPH UK
jCAPITAL LETTER BROAD OMEGA;jSMALL LETTER BROAD OMEGA;jCAPITAL LETTER NEUTRAL YER
jSMALL LETTER NEUTRAL YER;jCAPITAL LETTER YERU WITH BACK YER;jSMALL LETTER YERU WITH BACK YER
jCAPITAL LETTER IOTIFIED YAT;jSMALL LETTER IOTIFIED YAT;jCAPITAL LETTER REVERSED YU
jSMALL LETTER REVERSED YU;jCAPITAL LETTER IOTIFIED A;jSMALL LETTER IOTIFIED A
jCAPITAL LETTER CLOSED LITTLE YUS;jSMALL LETTER CLOSED LITTLE YUS;jCAPITAL LETTER BLENDED YUS
jSMALL LETTER BLENDED YUS;jCAPITAL LETTER IOTIFIED CLOSED LITTLE YUS
jSMALL LETTER IOTIFIED CLOSED LITTLE YUS;jCAPITAL LETTER YN;jSMALL LETTER YN
jCAPITAL LETTER REVERSED TSE;jSMALL LETTER REVERSED TSE;jCAPITAL LETTER SOFT DE
jSMALL LETTER SOFT DE;jCAPITAL LETTER SOFT EL;jSMALL LETTER SOFT EL;jCAPITAL LETTER SOFT EM
jSMALL LETTER SOFT EM;jCAPITAL LETTER MONOCULAR O;jSMALL LETTER MONOCULAR O
jCAPITAL LETTER BINOCULAR O;jSMALL LETTER BINOCULAR O;jCAPITAL LETTER DOUBLE MONOCULAR O
jSMALL LETTER DOUBLE MONOCULAR O;jLETTER MULTIOCULAR O;bOMBINING CYRILLIC VZMET;tTEN MILLIONS SIGN
tHUNDRED MILLIONS SIGN;tTHOUSAND MILLIONS SIGN;aSLAVONIC ASTERISK
aCOMBINING CYRILLIC LETTER UKRAINIAN IE;zbI;zbYI;zbU;zbHARD SIGN;zbYERU;zbSOFT SIGN;zbOMEGA;tKAVYKA
tPAYEROK;bYRILLIC KAVYKA;jPAYEROK;jCAPITAL LETTER DWE;jSMALL LETTER DWE;jCAPITAL LETTER DZWE
jSMALL LETTER DZWE;jCAPITAL LETTER ZHWE;jSMALL LETTER ZHWE;jCAPITAL LETTER CCHE;jSMALL LETTER CCHE
jCAPITAL LETTER DZZE;jSMALL LETTER DZZE;jCAPITAL LETTER TE WITH MIDDLE HOOK
jSMALL LETTER TE WITH MIDDLE HOOK;jCAPITAL LETTER TWE;jSMALL LETTER TWE;jCAPITAL LETTER TSWE
jSMALL LETTER TSWE;jCAPITAL LETTER TSSE;jSMALL LETTER TSSE;jCAPITAL LETTER TCHE;jSMALL LETTER TCHE
jCAPITAL LETTER HWE;jSMALL LETTER HWE;jCAPITAL LETTER SHWE;jSMALL LETTER SHWE
jCAPITAL LETTER DOUBLE O;jSMALL LETTER DOUBLE O;jCAPITAL LETTER CROSSED O;jSMALL LETTER CROSSED O
aMODIFIER LETTER CYRILLIC HARD SIGN;zaSOFT SIGN;aCOMBINING CYRILLIC LETTER EF;zbIOTIFIED E
aBAMUM LETTER A;nKA;nU;nKU;nEE;nREE;nTAE;nO;nNYI;nI;nLA;nPA;nRII;pEE;nLEEEE;nMEEEE;nTAA;nNDAA;oJAEM
nM;nSUU;nMU;nSHII;oI;oHEUX;oEUX;nKYEE;oET;nNUAE;p;oJUAE;nYOQ;nSHU;nYUQ;oA;nNSHA;nKEUX;nPEUX;nNJEE
oTEE;nPUE;nWUE;nPEE;nFEE;nRU;nLU;nMI;nNI;nREUX;oAE;nKEN;nNGKWAEN;pGA;pA;nSHO;nPUAE;nFU;oOM;nWA;nNA
nLI;nPI;nLOQ;nKO;nMBEN;nREN;nMEN;oA;nTI;nKI;nMO;oBAA;nTET;nKPA;nTEN;nNTUU;nSAMBA;nFAAMAE;nKOVUU
pGHOM;gCOMBINING MARK KOQNDON;vTUKWENTIS;gNJAEMLI;gFULL STOP;gCOLON;iMMA;gSEMICOLON;gQUESTION MARK
9aMODIFIER LETTER CHINESE TONE YIN PING;zfANG PING;zfIN SHANG;zfANG SHANG;zfIN QU;zfANG QU;zfIN RU
zfANG RU;qEXTRA-HIGH DOTTED TONE BAR;qHIGH DOTTED TONE BAR;qMID DOTTED TONE BAR
qLOW DOTTED TONE BAR;qEXTRA-LOW DOTTED TONE BAR;wHIGH DOTTED LEFT-STEM TONE BAR
qHIGH DOTTED LEFT-STEM TONE BAR;qMID DOTTED LEFT-STEM TONE BAR;qLOW DOTTED LEFT-STEM TONE BAR
qEXTRA-LOW DOTTED LEFT-STEM TONE BAR;wHIGH LEFT-STEM TONE BAR;qHIGH LEFT-STEM TONE BAR
qMID LEFT-STEM TONE BAR;qLOW LEFT-STEM TONE BAR;qEXTRA-LOW LEFT-STEM TONE BAR;qDOT VERTICAL BAR
uSLASH;uHORIZONTAL BAR;qLOWER RIGHT CORNER ANGLE;qRAISED UP ARROW;xDOWN ARROW;xEXCLAMATION MARK
xINVERTED EXCLAMATION MARK;qLOW INVERTED EXCLAMATION MARK;qSTRESS AND HIGH TONE;zcLOW TONE
aLATIN CAPITAL LETTER EGYPTOLOGICAL ALEF;gSMALL LETTER EGYPTOLOGICAL ALEF
gCAPITAL LETTER EGYPTOLOGICAL AIN;gSMALL LETTER EGYPTOLOGICAL AIN;gCAPITAL LETTER HENG
gSMALL LETTER HENG;gCAPITAL LETTER TZ;gSMALL LETTER TZ;gCAPITAL LETTER TRESILLO
gSMALL LETTER TRESILLO;gCAPITAL LETTER CUATRILLO;gSMALL LETTER CUATRILLO
gCAPITAL LETTER CUATRILLO WITH COMMA;gSMALL LETTER CUATRILLO WITH COMMA;gLETTER SMALL CAPITAL F;zcS
gCAPITAL LETTER AA;gSMALL LETTER AA;gCAPITAL LETTER AO;gSMALL LETTER AO;gCAPITAL LETTER AU
gSMALL LETTER AU;gCAPITAL LETTER AV;gSMALL LETTER AV;gCAPITAL LETTER AV WITH HORIZONTAL BAR
gSMALL LETTER AV WITH HORIZONTAL BAR;gCAPITAL LETTER AY;gSMALL LETTER AY
gCAPITAL LETTER REVERSED C WITH DOT;gSMALL LETTER REVERSED C WITH DOT;gCAPITAL LETTER K WITH STROKE
gSMALL LETTER K WITH STROKE;gCAPITAL LETTER K WITH DIAGONAL STROKE
gSMALL LETTER K WITH DIAGONAL STROKE;gCAPITAL LETTER K WITH STROKE AND DIAGONAL STROKE
gSMALL LETTER K WITH STROKE AND DIAGONAL STROKE;gCAPITAL LETTER BROKEN L;gSMALL LETTER BROKEN L
gCAPITAL LETTER L WITH HIGH STROKE;gSMALL LETTER L WITH HIGH STROKE
gCAPITAL LETTER O WITH LONG STROKE OVERLAY;gSMALL LETTER O WITH LONG STROKE OVERLAY
gCAPITAL LETTER O WITH LOOP;gSMALL LETTER O WITH LOOP;gCAPITAL LETTER OO;gSMALL LETTER OO
gCAPITAL LETTER P WITH STROKE THROUGH DESCENDER;gSMALL LETTER P WITH STROKE THROUGH DESCENDER
gCAPITAL LETTER P WITH FLOURISH;gSMALL LETTER P WITH FLOURISH;gCAPITAL LETTER P WITH SQUIRREL TAIL
gSMALL LETTER P WITH SQUIRREL TAIL;gCAPITAL LETTER Q WITH STROKE THROUGH DESCENDER
gSMALL LETTER Q WITH STROKE THROUGH DESCENDER;gCAPITAL LETTER Q WITH DIAGONAL STROKE
gSMALL LETTER Q WITH DIAGONAL STROKE;gCAPITAL LETTER R ROTUNDA;gSMALL LETTER R ROTUNDA
gCAPITAL LETTER RUM ROTUNDA;gSMALL LETTER RUM ROTUNDA;gCAPITAL LETTER V WITH DIAGONAL STROKE
gSMALL LETTER V WITH DIAGONAL STROKE;gCAPITAL LETTER VY;gSMALL LETTER VY
gCAPITAL LETTER VISIGOTHIC Z;gSMALL LETTER VISIGOTHIC Z;gCAPITAL LETTER THORN WITH STROKE
gSMALL LETTER THORN WITH STROKE;gCAPITAL LETTER THORN WITH STROKE THROUGH DESCENDER
gSMALL LETTER THORN WITH STROKE THROUGH DESCENDER;gCAPITAL LETTER VEND;gSMALL LETTER VEND
gCAPITAL LETTER ET;gSMALL LETTER ET;gCAPITAL LETTER IS;gSMALL LETTER IS;gCAPITAL LETTER CON
gSMALL LETTER CON;aMODIFIER LETTER US;aLATIN SMALL LETTER DUM;tLUM;tMUM;tNUM;tRUM
gLETTER SMALL CAPITAL RUM;gSMALL LETTER TUM;tUM;gCAPITAL LETTER INSULAR D;gSMALL LETTER INSULAR D
gCAPITAL LETTER INSULAR F;gSMALL LETTER INSULAR F;gCAPITAL LETTER INSULAR G;vTURNED INSULAR G
gSMALL LETTER TURNED INSULAR G;gCAPITAL LETTER TURNED L;gSMALL LETTER TURNED L
gCAPITAL LETTER INSULAR R;gSMALL LETTER INSULAR R;gCAPITAL LETTER INSULAR S;gSMALL LETTER INSULAR S
gCAPITAL LETTER INSULAR T;gSMALL LETTER INSULAR T;aMODIFIER LETTER LOW CIRCUMFLEX ACCENT;qCOLON
qSHORT EQUALS SIGN;aLATIN CAPITAL LETTER SALTILLO;gSMALL LETTER SALTILLO;gCAPITAL LETTER TURNED H
gSMALL LETTER L WITH RETROFLEX HOOK AND BELT;gLETTER SINOLOGICAL DOT
gCAPITAL LETTER N WITH DESCENDER;gSMALL LETTER N WITH DESCENDER;gCAPITAL LETTER C WITH BAR
gSMALL LETTER C WITH BAR;zbPALATAL HOOK;tH WITH PALATAL HOOK;gCAPITAL LETTER B WITH FLOURISH
gSMALL LETTER B WITH FLOURISH;gCAPITAL LETTER F WITH STROKE;gSMALL LETTER F WITH STROKE
gCAPITAL LETTER VOLAPUK AE;gSMALL LETTER VOLAPUK AE;gCAPITAL LETTER VOLAPUK OE
gSMALL LETTER VOLAPUK OE;gCAPITAL LETTER VOLAPUK UE;gSMALL LETTER VOLAPUK UE
gCAPITAL LETTER G WITH OBLIQUE STROKE;gSMALL LETTER G WITH OBLIQUE STROKE
gCAPITAL LETTER K WITH OBLIQUE STROKE;gSMALL LETTER K WITH OBLIQUE STROKE
gCAPITAL LETTER N WITH OBLIQUE STROKE;gSMALL LETTER N WITH OBLIQUE STROKE
gCAPITAL LETTER R WITH OBLIQUE STROKE;gSMALL LETTER R WITH OBLIQUE STROKE
gCAPITAL LETTER S WITH OBLIQUE STROKE;gSMALL LETTER S WITH OBLIQUE STROKE
gCAPITAL LETTER H WITH HOOK;vREVERSED OPEN E;vSCRIPT G;vL WITH BELT;vSMALL CAPITAL I
gLETTER SMALL CAPITAL Q;gCAPITAL LETTER TURNED K;zdT;vJ WITH CROSSED-TAIL;vCHI;vBETA
gSMALL LETTER BETA;gCAPITAL LETTER OMEGA;gSMALL LETTER OMEGA;gCAPITAL LETTER U WITH STROKE
gSMALL LETTER U WITH STROKE;gCAPITAL LETTER GLOTTAL A;gSMALL LETTER GLOTTAL A
gCAPITAL LETTER GLOTTAL I;gSMALL LETTER GLOTTAL I;gCAPITAL LETTER GLOTTAL U;gSMALL LETTER GLOTTAL U
gCAPITAL LETTER OLD POLISH O;gSMALL LETTER OLD POLISH O;gCAPITAL LETTER ANGLICANA W
gSMALL LETTER ANGLICANA W;gCAPITAL LETTER C WITH PALATAL HOOK;vS WITH HOOK;vZ WITH PALATAL HOOK
vD WITH SHORT STROKE OVERLAY;gSMALL LETTER D WITH SHORT STROKE OVERLAY
gCAPITAL LETTER S WITH SHORT STROKE OVERLAY;gSMALL LETTER S WITH SHORT STROKE OVERLAY
6gCAPITAL LETTER CLOSED INSULAR G;gSMALL LETTER CLOSED INSULAR G;2tDOUBLE THORN;2zbWYNN
gCAPITAL LETTER MIDDLE SCOTS S;gSMALL LETTER MIDDLE SCOTS S;gCAPITAL LETTER SIGMOID S
gSMALL LETTER SIGMOID S;19aMODIFIER LETTER CAPITAL C;yF;yQ;aLATIN CAPITAL LETTER REVERSED HALF H
gSMALL LETTER REVERSED HALF H;gEPIGRAPHIC LETTER SIDEWAYS I;aMODIFIER LETTER CAPITAL H WITH STROKE
qSMALL LIGATURE OE;aLATIN LETTER SMALL CAPITAL TURNED M;gEPIGRAPHIC LETTER REVERSED F;ziP
yINVERTED M;za LONGA;yARCHAIC M;aSYLOTI NAGRI LETTER A;uI;nSIGN DVISVARA;nLETTER U;uE;uO
nSIGN HASANTA;nLETTER KO;vHO;uGO;vHO;nSIGN ANUSVARA;nLETTER CO;vHO;uJO;vHO;uTTO;wHO;uDDO;wHO;uTO
vHO;uDO;vHO;uNO;uPO;vHO;uBO;vHO;uMO;uRO;uLO;uRRO;uSO;uHO;nVOWEL SIGN A;yI;yU;yE;yOO;nPOETRY MARK-1
za2;za3;za4;nSIGN ALTERNATE HASANTA;4aNORTH INDIC FRACTION ONE QUARTER;zaHALF;vTHREE QUARTERS
vONE SIXTEENTH;zaEIGHTH;vTHREE SIXTEENTHS;mQUARTER MARK;mPLACEHOLDER MARK;mRUPEE MARK
mQUANTITY MARK;7aPHAGS-PA LETTER KA;rHA;qGA;qNGA;qCA;rHA;qJA;qNYA;qTA;rHA;qDA;qNA;qPA;rHA;qBA;qMA
qTSA;sHA;qDZA;qWA;qZHA;rA;qSMALL A;qYA;qRA;qLA;qSHA;rA;qHA;qA;qI;qU;qE;qO;qQA;qXA;qFA;qGGA;qEE
jSUBJOINED LETTER WA;zbYA;jLETTER TTA;sHA;qDDA;qNNA;qALTERNATE YA;qVOICELESS SHA;vD HA
qASPIRATED FA;jSUBJOINED LETTER RA;lPERFIXED LETTER RA;jLETTER CANDRABINDU;jSINGLE HEAD MARK
jDOUBLE HEAD MARK;jMARK SHAD;oDOUBLE SHAD;9aSAURASHTRA SIGN ANUSVARA;qVISARGA;lLETTER A;tA;sI;tI;sU
tU;sVOCALIC R;zcR;zbL;zcL;sE;tE;sAI;sO;tO;sAU;sKA;tHA;sGA;tHA;sNGA;sCA;tHA;sJA;tHA;sNYA;sTTA;uHA
sDDA;uHA;sNNA;sTA;tHA;sDA;tHA;sNA;sPA;tHA;sBA;tHA;sMA;sYA;sRA;sLA;sVA;sSHA;tSA;tA;sHA;sLLA
lCONSONANT SIGN HAARU;lVOWEL SIGN AA;wI;xI;wU;xU;wVOCALIC R;zgR;zfL;zgL;wE;xE;wAI;wO;xO;wAU
lSIGN VIRAMA;qCANDRABINDU;9lDANDA;mOUBLE DANDA;mIGIT ZERO;rONE;rTWO;sHREE;rFOUR;sIVE;rSIX;sEVEN
rEIGHT;rNINE;7aCOMBINING DEVANAGARI DIGIT ZERO;zcONE;zcTWO;zdHREE;zcFOUR;zdIVE;zcSIX;zdEVEN;zcEIGHT
zcNINE;vLETTER A;zdU;zdKA;zdNA;zdPA;zdRA;zdVI;vSIGN AVAGRAHA;aDEVANAGARI SIGN SPACING CANDRABINDU
qCANDRABINDU VIRAMA;qDOUBLE CANDRABINDU VIRAMA;qCANDRABINDU TWO;zeHREE;zdAVAGRAHA;qPUSHPIKA
lGAP FILLER;lCARET;lHEADSTROKE;lSIGN SIDDHAM;lJAIN OM;lLETTER AY;lVOWEL SIGN AY
aKAYAH LI DIGIT ZERO;pONE;pTWO;qHREE;pFOUR;qIVE;pSIX;qEVEN;pEIGHT;pNINE;jLETTER KA;rHA;qGA;qNGA;qSA
rHA;qZA;qNYA;qTA;qHTA;qNA;qPA;rHA;qMA;qDA;qBA;qRA;qYA;qLA;qWA;qTHA;qHA;qVA;qCA;qA;qOE;qI;qOO
jVOWEL UE;pE;pU;pEE;pO;jTONE PLOPHU;oCALYA;t PLOPHU;jSIGN CWI;oSHYA;aREJANG LETTER KA;oGA;oNGA;oTA
oDA;oNA;oPA;oBA;oMA;oCA;oJA;oNYA;oSA;oRA;oLA;oYA;oWA;oHA;oMBA;oNGGA;pDA;pYJA;oA;hVOWEL SIGN I;sU;sE
sAI;sO;sAU;sEU;tA;hCONSONANT SIGN NG;x;wR;wH;hVIRAMA;ChSECTION MARK;aHANGUL CHOSEONG TIKEUT-MIEUM
xPIEUP;xSIOS;xCIEUC;qRIEUL-KIYEOK;wSSANGKIYEOK;wTIKEUT;wSSANGTIKEUT;wMIEUM;wPIEUP;wSSANGPIEUP
wKAPYEOUNPIEUP;wSIOS;wCIEUC;wKHIEUKH;qMIEUM-KIYEOK;wTIKEUT;wSIOS;qPIEUP-SIOS-THIEUTH;wKHIEUKH
wHIEUH;qSSANGSIOS-PIEUP;qIEUNG-RIEUL;wHIEUH;qSSANGCIEUC-HIEUH;vTHIEUTH;qPHIEUPH-HIEUH;qHIEUH-SIOS
qSSANGYEORINHIEUH;4aJAVANESE SIGN PANYANGGA;oCECAK;oLAYAR;oWIGNYAN;jLETTER A;qI KAWI;r;rI;qU
qPA CEREK;qNGA LELET;za RASWADI;qE;qAI;qO;qKA;s SASAK;tMURDA;qGA;s MURDA;qNGA;qCA;s MURDA;qJA
qNYA MURDA;qJA MAHAPRANA;qNYA;qTTA;t MAHAPRANA;qDDA;t MAHAPRANA;qNA MURDA;qTA;s MURDA;qDA
s MAHAPRANA;qNA;qPA;s MURDA;qBA;s MURDA;qMA;qYA;qRA;s AGUNG;qLA;qWA;qSA MURDA;uAHAPRANA;s;qHA
jSIGN CECAK TELU;jVOWEL SIGN TARUNG;vOLONG;uWULU;y MELIK;uSUKU;y MENDUT;uTALING;uDIRGA MURE;uPEPET
jCONSONANT SIGN KERET;yPENGKAL;yCAKRA;jPANGKON;jLEFT RERENGGAN;jRIGHT RERENGGAN;jPADA ANDAP;oMADYA
oLUHUR;oWINDU;oPANGKAT;oLINGSA;pUNGSI;oADEG;s ADEG;oPISELEH;jTURNED PADA PISELEH;2jPANGRANGKEP
jDIGIT ZERO;pONE;pTWO;qHREE;pFOUR;qIVE;pSIX;qEVEN;pEIGHT;pNINE;5jPADA TIRTA TUMETES;oISEN-ISEN
aMYANMAR LETTER SHAN GHA;uCHA;uJHA;uNNA;uBHA;iSIGN SHAN SAW;iMODIFIER LETTER SHAN REDUPLICATION
iLETTER TAI LAING NYA;zaFA;zaGA;zbHA;zaJA;zbHA;zaDDA;zcHA;zaNNA;iTAI LAING DIGIT ZERO;yONE;yTWO
zaHREE;yFOUR;zaIVE;ySIX;zaEVEN;yEIGHT;yNINE;iLETTER TAI LAING LLA;zaDA;zbHA;zaBA;zbHA
2aCHAM LETTER A;mI;mU;mE;mAI;mO;mKA;nHA;mGA;nHA;mNGUE;oA;mCHA;oHA;mJA;nHA;mNHUE;oA;oJA;mTA;nHA;mDA
nHA;mNUE;nA;mDDA;mPA;nPA;nHA;mBA;nHA;mMUE;nA;mBBA;mYA;mRA;mLA;mVA;mSSA;nA;mHA;fVOWEL SIGN AA;qI;rI
qEI;qU;qOE;r;qAI;rU;qUE;fCONSONANT SIGN YA;uRA;uLA;uWA;AfLETTER FINAL K;sG;sNG
fCONSONANT SIGN FINAL NG;fLETTER FINAL CH;sT;sN;sP;sY;sR;sL;sSS;fCONSONANT SIGN FINAL M;zbH
3fDIGIT ZERO;lONE;lTWO;mHREE;lFOUR;mIVE;lSIX;mEVEN;lEIGHT;lNINE;3fPUNCTUATION SPIRAL;rDANDA
sOUBLE DANDA;rTRIPLE DANDA;aMYANMAR LETTER KHAMTI GA;wCA;xHA;wJA;xHA;wNYA;wTTA;yHA;wDDA;yHA;xHA;wNA
wSA;wHA;xHA;0wLLA;wFA;iMODIFIER LETTER KHAMTI REDUPLICATION;iLETTER KHAMTI XA;wZA;wRA
jOGOGRAM KHAMTI OAY;yQN;yHM;iSYMBOL AITON EXCLAMATION;vONE;vTWO;iLETTER AITON RA
iSIGN PAO KAREN TONE;nTAI LAING TONE-2;zd5;iLETTER SHWE PALAUNG CHA;zdSHA;aTAI VIET LETTER LOW KO
qHIGH KO;qLOW KHO;qHIGH KHO;qLOW KHHO;qHIGH KHHO;qLOW GO;qHIGH GO;qLOW NGO;qHIGH NGO;qLOW CO
qHIGH CO;qLOW CHO;qHIGH CHO;qLOW SO;qHIGH SO;qLOW NYO;qHIGH NYO;qLOW DO;qHIGH DO;qLOW TO;qHIGH TO
qLOW THO;qHIGH THO;qLOW NO;qHIGH NO;qLOW BO;qHIGH BO;qLOW PO;qHIGH PO;qLOW PHO;qHIGH PHO;qLOW FO
qHIGH FO;qLOW MO;qHIGH MO;qLOW YO;qHIGH YO;qLOW RO;qHIGH RO;qLOW LO;qHIGH LO;qLOW VO;qHIGH VO
qLOW HO;qHIGH HO;qLOW O;qHIGH O;jMAI KANG;jVOWEL AA;pI;pUE;q;pE;pO;jMAI KHIT;jVOWEL IA;pUEA;qA;pAUE
qY;qN;qM;jTONE MAI EK;sNUENG;sTHO;sSONG;19jSYMBOL KON;qNUENG;qSAM;qHO HOI;qKOI KOI
aMEETEI MAYEK LETTER E;uO;uCHA;uNYA;uTTA;wHA;uDDA;wHA;uNNA;uSHA;vSA;nVOWEL SIGN II;yUU;yAAI;zaU
zaAU;nCHEIKHAN;nAHANG KHUDAM;oNJI;nSYLLABLE REPETITION MARK;nWORD REPETITION MARK
nVOWEL SIGN VISARGA;oIRAMA;BaETHIOPIC SYLLABLE TTHU;vI;vAA;vEE;w;vO;3sDDHU;vI;vAA;vEE;w;vO;3tZU;uI
uAA;uEE;v;uO;AsCCHHA;wU;wI;wAA;wEE;x;wO;2sBBA;uU;uI;uAA;uEE;v;uO;2aLATIN SMALL LETTER BARRED ALPHA
tA REVERSED-SCHWA;tBLACKLETTER E;uARRED E;tE WITH FLOURISH;tLENIS F;tSCRIPT G WITH CROSSED-TAIL
tL WITH INVERTED LAZY S;zbDOUBLE MIDDLE TILDE;zbMIDDLE RING;tM WITH CROSSED-TAIL
tN WITH CROSSED-TAIL;tENG WITH CROSSED-TAIL;tBLACKLETTER O;zh WITH STROKE;tOPEN O WITH STROKE
tINVERTED OE;tTURNED OE WITH STROKE;zjHORIZONTAL STROKE;zc OPEN-O;zj WITH STROKE;tSTIRRUP R
gLETTER SMALL CAPITAL R WITH RIGHT LEG;gSMALL LETTER R WITHOUT HANDLE;tDOUBLE R
tR WITH CROSSED-TAIL;tDOUBLE R WITH CROSSED-TAIL;tSCRIPT R;zc WITH RING;tBASELINE ESH
tU WITH SHORT RIGHT LEG;vBAR WITH SHORT RIGHT LEG;uI;tTURNED UI;tU WITH LEFT HOOK;tCHI
w WITH LOW RIGHT RING;zhLEFT SERIF;tX WITH LOW RIGHT RING;zdNG LEFT LEG;zo AND LOW RIGHT RING
zpWITH SERIF;tY WITH SHORT RIGHT LEG;aMODIFIER BREVE WITH INVERTED BREVE;jLETTER SMALL HENG
wL WITH INVERTED LAZY S;zeMIDDLE TILDE;wU WITH LEFT HOOK;aLATIN SMALL LETTER SAKHA YAT;tIOTIFIED E
tOPEN OE;tUO;tINVERTED ALPHA;aGREEK LETTER SMALL CAPITAL OMEGA
aLATIN SMALL LETTER DZ DIGRAPH WITH RETROFLEX HOOK;tTS DIGRAPH WITH RETROFLEX HOOK
uURNED R WITH MIDDLE TILDE;aMODIFIER LETTER SMALL TURNED W;qLEFT TACK;qRIGHT TACK
5aCHEROKEE SMALL LETTER A;wE;wI;wO;wU;wV;wGA;wKA;wGE;xI;xO;xU;xV;wHA;xE;xI;xO;xU;xV;wLA;xE;xI;xO;xU
xV;wMA;xE;xI;xO;xU;wNA;wHNA;wNAH;xE;xI;xO;xU;xV;wQUA;yE;yI;yO;yU;yV;wSA;x;xE;xI;xO;xU;xV;wDA;wTA
wDE;wTE;wDI;wTI;wDO;xU;xV;xLA;wTLA;yE;yI;yO;yU;yV;xSA;yE;yI;yO;yU;yV;wWA;xE;xI;xO;xU;xV;wYA
aMEETEI MAYEK LETTER KOK;uSAM;uLAI;uMIT;uPA;uNA;uCHIL;uTIL;uKHOU;uNGOU;uTHOU;uWAI;uYANG;uHUK;uUN;uI
uPHAM;uATIYA;uGOK;uJHAM;uRAI;uBA;uJIL;uDIL;uGHOU;uDHOU;uBHAM;uKOK LONSUM;uLAI LONSUM;uMIT LONSUM
uPA LONSUM;uNA LONSUM;uTIL LONSUM;uNGOU LONSUM;uI LONSUM;nVOWEL SIGN ONAP;yINAP;yANAP;yYENAP
ySOUNAP;yUNAP;yCHEINAP;yNUNG;nCHEIKHEI;nLUM IYEK;nAPUN IYEK;3nDIGIT ZERO;tONE;tTWO;uHREE;tFOUR;uIVE
tSIX;uEVEN;tEIGHT;tNINE;2BB7aHANGUL JUNGSEONG O-YEO;tO-I;rYO-A;vE;uEO;rU-YEO;tI-I;rYU-AE;uO;rEU-A
uEO;v;uO;rI-YA-O;vE;uEO;v;tO-I;tYO;uU;tI;rARAEA-A;xE;5iONGSEONG NIEUN-RIEUL;xCHIEUCH;rSSANGTIKEUT
zd-PIEUP;rTIKEUT-PIEUP;ySIOS;zd-KIYEOK;yCIEUC;zaHIEUCH;yTHIEUTH;rRIEUL-SSANGKIYEOK;xKIYEOK-HIEUH
rSSANGRIEUL-KHIEUKH;rRIEUL-MIEUM-HIEUH;xPIEUP-TIKEUT;zePHIEUPH;xYESIEUNG;zaORINHIEUH-HIEUH
rKAPYEOUNRIEUL;rMIEUM-NIEUN;xSSANGNIEUN;rSSANGMIEUM;rMIEUM-PIEUP-SIOS;xCIEUC;rPIEUP-TIKEUT
xRIEUL-PHIEUPH;xMIEUM;rSSANGPIEUP;rPIEUP-SIOS-TIKEUT;xCIEUC;yHIEUCH;rSIOS-MIEUM;wKAPYEOUNPIEUP
sSANGSIOS-KIYEOK;zcTIKEUT;sIOS-PANSIOS;wCIEUC;xHIEUCH;wTHIEUTH;wHIEUH;rPANSIOS-PIEUP
zaKAPYEOUNPIEUP;rYESIEUNG-MIEUM;zbHIEUH;rCIEUC-PIEUP;xSSANGPIEUP;rSSANGCIEUC;rPHIEUPH-SIOS
zaTHIEUTH;2105aCJK COMPATIBILITY IDEOGRAPH-F900;zg1;zg2;zg3;zg4;zg5;zg6;zg7;zg8;zg9;zgA;zgB;zgC;zgD
zgE;zgF;zf10;zg1;zg2;zg3;zg4;zg5;zg6;zg7;zg8;zg9;zgA;zgB;zgC;zgD;zgE;zgF;zf20;zg1;zg2;zg3;zg4;zg5
zg6;zg7;zg8;zg9;zgA;zgB;zgC;zgD;zgE;zgF;zf30;zg1;zg2;zg3;zg4;zg5;zg6;zg7;zg8;zg9;zgA;zgB;zgC;zgD
zgE;zgF;zf40;zg1;zg2;zg3;zg4;zg5;zg6;zg7;zg8;zg9;zgA;zgB;zgC;zgD;zgE;zgF;zf50;zg1;zg2;zg3;zg4;zg5
zg6;zg7;zg8;zg9;zgA;zgB;zgC;zgD;zgE;zgF;zf60;zg1;zg2;zg3;zg4;zg5;zg6;zg7;zg8;zg9;zgA;zgB;zgC;zgD
zgE;zgF;zf70;zg1;zg2;zg3;zg4;zg5;zg6;zg7;zg8;zg9;zgA;zgB;zgC;zgD;zgE;zgF;zf80;zg1;zg2;zg3;zg4;zg5
zg6;zg7;zg8;zg9;zgA;zgB;zgC;zgD;zgE;zgF;zf90;zg1;zg2;zg3;zg4;zg5;zg6;zg7;zg8;zg9;zgA;zgB;zgC;zgD
zgE;zgF;zfA0;zg1;zg2;zg3;zg4;zg5;zg6;zg7;zg8;zg9;zgA;zgB;zgC;zgD;zgE;zgF;zfB0;zg1;zg2;zg3;zg4;zg5
zg6;zg7;zg8;zg9;zgA;zgB;zgC;zgD;zgE;zgF;zfC0;zg1;zg2;zg3;zg4;zg5;zg6;zg7;zg8;zg9;zgA;zgB;zgC;zgD
zgE;zgF;zfD0;zg1;zg2;zg3;zg4;zg5;zg6;zg7;zg8;zg9;zgA;zgB;zgC;zgD;zgE;zgF;zfE0;zg1;zg2;zg3;zg4;zg5
zg6;zg7;zg8;zg9;zgA;zgB;zgC;zgD;zgE;zgF;zfF0;zg1;zg2;zg3;zg4;zg5;zg6;zg7;zg8;zg9;zgA;zgB;zgC;zgD
zgE;zgF;zeA00;zg1;zg2;zg3;zg4;zg5;zg6;zg7;zg8;zg9;zgA;zgB;zgC;zgD;zgE;zgF;zf10;zg1;zg2;zg3;zg4;zg5
zg6;zg7;zg8;zg9;zgA;zgB;zgC;zgD;zgE;zgF;zf20;zg1;zg2;zg3;zg4;zg5;zg6;zg7;zg8;zg9;zgA;zgB;zgC;zgD
zgE;zgF;zf30;zg1;zg2;zg3;zg4;zg5;zg6;zg7;zg8;zg9;zgA;zgB;zgC;zgD;zgE;zgF;zf40;zg1;zg2;zg3;zg4;zg5
zg6;zg7;zg8;zg9;zgA;zgB;zgC;zgD;zgE;zgF;zf50;zg1;zg2;zg3;zg4;zg5;zg6;zg7;zg8;zg9;zgA;zgB;zgC;zgD
zgE;zgF;zf60;zg1;zg2;zg3;zg4;zg5;zg6;zg7;zg8;zg9;zgA;zgB;zgC;zgD;3zf70;zg1;zg2;zg3;zg4;zg5;zg6;zg7
zg8;zg9;zgA;zgB;zgC;zgD;zgE;zgF;zf80;zg1;zg2;zg3;zg4;zg5;zg6;zg7;zg8;zg9;zgA;zgB;zgC;zgD;zgE;zgF
zf90;zg1;zg2;zg3;zg4;zg5;zg6;zg7;zg8;zg9;zgA;zgB;zgC;zgD;zgE;zgF;zfA0;zg1;zg2;zg3;zg4;zg5;zg6;zg7
zg8;zg9;zgA;zgB;zgC;zgD;zgE;zgF;zfB0;zg1;zg2;zg3;zg4;zg5;zg6;zg7;zg8;zg9;zgA;zgB;zgC;zgD;zgE;zgF
zfC0;zg1;zg2;zg3;zg4;zg5;zg6;zg7;zg8;zg9;zgA;zgB;zgC;zgD;zgE;zgF;zfD0;zg1;zg2;zg3;zg4;zg5;zg6;zg7
zg8;zg9;27aLATIN SMALL LIGATURE FF;wI;wL;wFI;xL;vLONG S T;vST;DaARMENIAN SMALL LIGATURE MEN NOW
zdECH;zdINI;yVEW NOW;yMEN XEH;6aHEBREW LETTER YOD WITH HIRIQ;hPOINT JUDEO-SPANISH VARIKA
hLIGATURE YIDDISH YOD YOD PATAH;iETTER ALTERNATIVE AYIN;oWIDE ALEF;tDALET;tHE;tKAF;tLAMED
tFINAL MEM;tRESH;tTAV;oALTERNATIVE PLUS SIGN;oSHIN WITH SHIN DOT;zaIN DOT;yDAGESH AND SHIN DOT
zlIN DOT;oALEF WITH PATAH;yQAMATS;yMAPIQ;oBET WITH DAGESH;oGIMEL WITH DAGESH;oDALET WITH DAGESH
oHE WITH MAPIQ;oVAV WITH DAGESH;oZAYIN WITH DAGESH;2oTET WITH DAGESH;oYOD WITH DAGESH
oFINAL KAF WITH DAGESH;oKAF WITH DAGESH;oLAMED WITH DAGESH;2oMEM WITH DAGESH;2oNUN WITH DAGESH
oSAMEKH WITH DAGESH;2oFINAL PE WITH DAGESH;oPE WITH DAGESH;2oTSADI WITH DAGESH;oQOF WITH DAGESH
oRESH WITH DAGESH;oSHIN WITH DAGESH;oTAV WITH DAGESH;oVAV WITH HOLAM;oBET WITH RAFE;oKAF WITH RAFE
oPE WITH RAFE;iIGATURE ALEF LAMED;aARABIC LETTER ALEF WASLA ISOLATED FORM;zaFINAL FORM
oBEEH ISOLATED FORM;tFINAL FORM;tINITIAL FORM;tMEDIAL FORM;oPEH ISOLATED FORM;sFINAL FORM
sINITIAL FORM;sMEDIAL FORM;oBEHEH ISOLATED FORM;uFINAL FORM;uINITIAL FORM;uMEDIAL FORM
oTTEHEH ISOLATED FORM;vFINAL FORM;vINITIAL FORM;vMEDIAL FORM;pEHEH ISOLATED FORM;uFINAL FORM
uINITIAL FORM;uMEDIAL FORM;pTEH ISOLATED FORM;tFINAL FORM;tINITIAL FORM;tMEDIAL FORM
oVEH ISOLATED FORM;sFINAL FORM;sINITIAL FORM;sMEDIAL FORM;oPEHEH ISOLATED FORM;uFINAL FORM
uINITIAL FORM;uMEDIAL FORM;oDYEH ISOLATED FORM;tFINAL FORM;tINITIAL FORM;tMEDIAL FORM
oNYEH ISOLATED FORM;tFINAL FORM;tINITIAL FORM;tMEDIAL FORM;oTCHEH ISOLATED FORM;uFINAL FORM
uINITIAL FORM;uMEDIAL FORM;tEH ISOLATED FORM;wFINAL FORM;wINITIAL FORM;wMEDIAL FORM
oDDAHAL ISOLATED FORM;vFINAL FORM;pAHAL ISOLATED FORM;uFINAL FORM;pUL ISOLATED FORM;sFINAL FORM
pDAL ISOLATED FORM;tFINAL FORM;oJEH ISOLATED FORM;sFINAL FORM;oRREH ISOLATED FORM;tFINAL FORM
oKEHEH ISOLATED FORM;uFINAL FORM;uINITIAL FORM;uMEDIAL FORM;oGAF ISOLATED FORM;sFINAL FORM
sINITIAL FORM;sMEDIAL FORM;pUEH ISOLATED FORM;tFINAL FORM;tINITIAL FORM;tMEDIAL FORM
oNGOEH ISOLATED FORM;uFINAL FORM;uINITIAL FORM;uMEDIAL FORM;pOON GHUNNA ISOLATED FORM;zbFINAL FORM
oRNOON ISOLATED FORM;uFINAL FORM;uINITIAL FORM;uMEDIAL FORM;oHEH WITH YEH ABOVE ISOLATED FORM
ziFINAL FORM;sGOAL ISOLATED FORM;xFINAL FORM;xINITIAL FORM;xMEDIAL FORM;sDOACHASHMEE ISOLATED FORM
zfFINAL FORM;zfINITIAL FORM;zfMEDIAL FORM;oYEH BARREE ISOLATED FORM;zaFINAL FORM
zaWITH HAMZA ABOVE ISOLATED FORM;zrFINAL FORM;hSYMBOL DOT ABOVE;sBELOW;oTWO DOTS ABOVE;xBELOW
pHREE DOTS ABOVE;zaBELOW;zaPOINTING DOWNWARDS ABOVE;ztBELOW;oFOUR DOTS ABOVE;yBELOW
oDOUBLE VERTICAL BAR BELOW;oTWO DOTS VERTICALLY ABOVE;zjBELOW;oRING;oSMALL TAH ABOVE;yBELOW
oWASLA ABOVE;11hLETTER NG ISOLATED FORM;rFINAL FORM;rINITIAL FORM;rMEDIAL FORM;oU ISOLATED FORM
qFINAL FORM;oOE ISOLATED FORM;rFINAL FORM;oYU ISOLATED FORM;rFINAL FORM
oU WITH HAMZA ABOVE ISOLATED FORM;oVE ISOLATED FORM;rFINAL FORM;oKIRGHIZ OE ISOLATED FORM
zaFINAL FORM;wYU ISOLATED FORM;zaFINAL FORM;oE ISOLATED FORM;qFINAL FORM;qINITIAL FORM;qMEDIAL FORM
oUIGHUR KAZAKH KIRGHIZ ALEF MAKSURA INITIAL FORM;zyMEDIAL FORM
iIGATURE YEH WITH HAMZA ABOVE WITH ALEF ISOLATED FORM;zwFINAL FORM;zsE ISOLATED FORM;zuFINAL FORM
zrWAW ISOLATED FORM;zvFINAL FORM;zrU ISOLATED FORM;ztFINAL FORM;zrOE ISOLATED FORM;zuFINAL FORM
zrYU ISOLATED FORM;zuFINAL FORM;zrE ISOLATED FORM;ztFINAL FORM;ztINITIAL FORM
qUIGHUR KIRGHIZ YEH WITH HAMZA ABOVE WITH ALEF MAKSURA ISOLATED FORM
zzE WITH ALEF MAKSURA FINAL FORM;zzE WITH ALEF MAKSURA INITIAL FORM;iETTER FARSI YEH ISOLATED FORM
yFINAL FORM;yINITIAL FORM;yMEDIAL FORM;iIGATURE YEH WITH HAMZA ABOVE WITH JEEM ISOLATED FORM
zrHAH ISOLATED FORM;zrMEEM ISOLATED FORM;zrALEF MAKSURA ISOLATED FORM;zrYEH ISOLATED FORM
qBEH WITH JEEM ISOLATED FORM;zaHAH ISOLATED FORM;zaKHAH ISOLATED FORM;zaMEEM ISOLATED FORM
zaALEF MAKSURA ISOLATED FORM;zaYEH ISOLATED FORM;qTEH WITH JEEM ISOLATED FORM;zaHAH ISOLATED FORM
zaKHAH ISOLATED FORM;zaMEEM ISOLATED FORM;zaALEF MAKSURA ISOLATED FORM;zaYEH ISOLATED FORM
rHEH WITH JEEM ISOLATED FORM;zbMEEM ISOLATED FORM;zbALEF MAKSURA ISOLATED FORM;zbYEH ISOLATED FORM
qJEEM WITH HAH ISOLATED FORM;zbMEEM ISOLATED FORM;qHAH WITH JEEM ISOLATED FORM;zaMEEM ISOLATED FORM
qKHAH WITH JEEM ISOLATED FORM;zbHAH ISOLATED FORM;zbMEEM ISOLATED FORM
qSEEN WITH JEEM ISOLATED FORM;zbHAH ISOLATED FORM;zbKHAH ISOLATED FORM;zbMEEM ISOLATED FORM
rAD WITH HAH ISOLATED FORM;zaMEEM ISOLATED FORM;qDAD WITH JEEM ISOLATED FORM;zaHAH ISOLATED FORM
zaKHAH ISOLATED FORM;zaMEEM ISOLATED FORM;qTAH WITH HAH ISOLATED FORM;zaMEEM ISOLATED FORM
qZAH WITH MEEM ISOLATED FORM;qAIN WITH JEEM ISOLATED FORM;zaMEEM ISOLATED FORM
qGHAIN WITH JEEM ISOLATED FORM;zcMEEM ISOLATED FORM;qFEH WITH JEEM ISOLATED FORM
zaHAH ISOLATED FORM;zaKHAH ISOLATED FORM;zaMEEM ISOLATED FORM;zaALEF MAKSURA ISOLATED FORM
zaYEH ISOLATED FORM;qQAF WITH HAH ISOLATED FORM;zaMEEM ISOLATED FORM;zaALEF MAKSURA ISOLATED FORM
zaYEH ISOLATED FORM;qKAF WITH ALEF ISOLATED FORM;zaJEEM ISOLATED FORM;zaHAH ISOLATED FORM
zaKHAH ISOLATED FORM;zaLAM ISOLATED FORM;zaMEEM ISOLATED FORM;zaALEF MAKSURA ISOLATED FORM
zaYEH ISOLATED FORM;qLAM WITH JEEM ISOLATED FORM;zaHAH ISOLATED FORM;zaKHAH ISOLATED FORM
zaMEEM ISOLATED FORM;zaALEF MAKSURA ISOLATED FORM;zaYEH ISOLATED FORM;qMEEM WITH JEEM ISOLATED FORM
zbHAH ISOLATED FORM;zbKHAH ISOLATED FORM;zbMEEM ISOLATED FORM;zbALEF MAKSURA ISOLATED FORM
zbYEH ISOLATED FORM;qNOON WITH JEEM ISOLATED FORM;zbHAH ISOLATED FORM;zbKHAH ISOLATED FORM
zbMEEM ISOLATED FORM;zbALEF MAKSURA ISOLATED FORM;zbYEH ISOLATED FORM;qHEH WITH JEEM ISOLATED FORM
zaMEEM ISOLATED FORM;zaALEF MAKSURA ISOLATED FORM;zaYEH ISOLATED FORM;qYEH WITH JEEM ISOLATED FORM
zaHAH ISOLATED FORM;zaKHAH ISOLATED FORM;zaMEEM ISOLATED FORM;zaALEF MAKSURA ISOLATED FORM
zaYEH ISOLATED FORM;qTHAL WITH SUPERSCRIPT ALEF ISOLATED FORM
qREH WITH SUPERSCRIPT ALEF ISOLATED FORM;qALEF MAKSURA WITH SUPERSCRIPT ALEF ISOLATED FORM
qSHADDA WITH DAMMATAN ISOLATED FORM;zdKASRATAN ISOLATED FORM;zdFATHA ISOLATED FORM
zdDAMMA ISOLATED FORM;zdKASRA ISOLATED FORM;zdSUPERSCRIPT ALEF ISOLATED FORM
qYEH WITH HAMZA ABOVE WITH REH FINAL FORM;zrZAIN FINAL FORM;zrMEEM FINAL FORM;zrNOON FINAL FORM
zrALEF MAKSURA FINAL FORM;zrYEH FINAL FORM;qBEH WITH REH FINAL FORM;zaZAIN FINAL FORM
zaMEEM FINAL FORM;zaNOON FINAL FORM;zaALEF MAKSURA FINAL FORM;zaYEH FINAL FORM
qTEH WITH REH FINAL FORM;zaZAIN FINAL FORM;zaMEEM FINAL FORM;zaNOON FINAL FORM
zaALEF MAKSURA FINAL FORM;zaYEH FINAL FORM;rHEH WITH REH FINAL FORM;zbZAIN FINAL FORM
zbMEEM FINAL FORM;zbNOON FINAL FORM;zbALEF MAKSURA FINAL FORM;zbYEH FINAL FORM
qFEH WITH ALEF MAKSURA FINAL FORM;zaYEH FINAL FORM;qQAF WITH ALEF MAKSURA FINAL FORM
zaYEH FINAL FORM;qKAF WITH ALEF FINAL FORM;zaLAM FINAL FORM;zaMEEM FINAL FORM
zaALEF MAKSURA FINAL FORM;zaYEH FINAL FORM;qLAM WITH MEEM FINAL FORM;zaALEF MAKSURA FINAL FORM
zaYEH FINAL FORM;qMEEM WITH ALEF FINAL FORM;zbMEEM FINAL FORM;qNOON WITH REH FINAL FORM
zbZAIN FINAL FORM;zbMEEM FINAL FORM;zbNOON FINAL FORM;zbALEF MAKSURA FINAL FORM;zbYEH FINAL FORM
qALEF MAKSURA WITH SUPERSCRIPT ALEF FINAL FORM;qYEH WITH REH FINAL FORM;zaZAIN FINAL FORM
zaMEEM FINAL FORM;zaNOON FINAL FORM;zaALEF MAKSURA FINAL FORM;zaYEH FINAL FORM
zaHAMZA ABOVE WITH JEEM INITIAL FORM;zrHAH INITIAL FORM;zrKHAH INITIAL FORM;zrMEEM INITIAL FORM
zrHEH INITIAL FORM;qBEH WITH JEEM INITIAL FORM;zaHAH INITIAL FORM;zaKHAH INITIAL FORM
zaMEEM INITIAL FORM;zaHEH INITIAL FORM;qTEH WITH JEEM INITIAL FORM;zaHAH INITIAL FORM
zaKHAH INITIAL FORM;zaMEEM INITIAL FORM;zaHEH INITIAL FORM;rHEH WITH MEEM INITIAL FORM
qJEEM WITH HAH INITIAL FORM;zbMEEM INITIAL FORM;qHAH WITH JEEM INITIAL FORM;zaMEEM INITIAL FORM
qKHAH WITH JEEM INITIAL FORM;zbMEEM INITIAL FORM;qSEEN WITH JEEM INITIAL FORM;zbHAH INITIAL FORM
zbKHAH INITIAL FORM;zbMEEM INITIAL FORM;rAD WITH HAH INITIAL FORM;zaKHAH INITIAL FORM
zaMEEM INITIAL FORM;qDAD WITH JEEM INITIAL FORM;zaHAH INITIAL FORM;zaKHAH INITIAL FORM
zaMEEM INITIAL FORM;qTAH WITH HAH INITIAL FORM;qZAH WITH MEEM INITIAL FORM
qAIN WITH JEEM INITIAL FORM;zaMEEM INITIAL FORM;qGHAIN WITH JEEM INITIAL FORM;zcMEEM INITIAL FORM
qFEH WITH JEEM INITIAL FORM;zaHAH INITIAL FORM;zaKHAH INITIAL FORM;zaMEEM INITIAL FORM
qQAF WITH HAH INITIAL FORM;zaMEEM INITIAL FORM;qKAF WITH JEEM INITIAL FORM;zaHAH INITIAL FORM
zaKHAH INITIAL FORM;zaLAM INITIAL FORM;zaMEEM INITIAL FORM;qLAM WITH JEEM INITIAL FORM
zaHAH INITIAL FORM;zaKHAH INITIAL FORM;zaMEEM INITIAL FORM;zaHEH INITIAL FORM
qMEEM WITH JEEM INITIAL FORM;zbHAH INITIAL FORM;zbKHAH INITIAL FORM;zbMEEM INITIAL FORM
qNOON WITH JEEM INITIAL FORM;zbHAH INITIAL FORM;zbKHAH INITIAL FORM;zbMEEM INITIAL FORM
zbHEH INITIAL FORM;qHEH WITH JEEM INITIAL FORM;zaMEEM INITIAL FORM;zaSUPERSCRIPT ALEF INITIAL FORM
qYEH WITH JEEM INITIAL FORM;zaHAH INITIAL FORM;zaKHAH INITIAL FORM;zaMEEM INITIAL FORM
zaHEH INITIAL FORM;zbAMZA ABOVE WITH MEEM MEDIAL FORM;zrHEH MEDIAL FORM;qBEH WITH MEEM MEDIAL FORM
zaHEH MEDIAL FORM;qTEH WITH MEEM MEDIAL FORM;zaHEH MEDIAL FORM;rHEH WITH MEEM MEDIAL FORM
zbHEH MEDIAL FORM;qSEEN WITH MEEM MEDIAL FORM;zbHEH MEDIAL FORM;rHEEN WITH MEEM MEDIAL FORM
zcHEH MEDIAL FORM;qKAF WITH LAM MEDIAL FORM;zaMEEM MEDIAL FORM;qLAM WITH MEEM MEDIAL FORM
qNOON WITH MEEM MEDIAL FORM;zbHEH MEDIAL FORM;qYEH WITH MEEM MEDIAL FORM;zaHEH MEDIAL FORM
qSHADDA WITH FATHA MEDIAL FORM;zdDAMMA MEDIAL FORM;zdKASRA MEDIAL FORM
qTAH WITH ALEF MAKSURA ISOLATED FORM;zaYEH ISOLATED FORM;qAIN WITH ALEF MAKSURA ISOLATED FORM
zaYEH ISOLATED FORM;qGHAIN WITH ALEF MAKSURA ISOLATED FORM;zcYEH ISOLATED FORM
qSEEN WITH ALEF MAKSURA ISOLATED FORM;zbYEH ISOLATED FORM;rHEEN WITH ALEF MAKSURA ISOLATED FORM
zcYEH ISOLATED FORM;qHAH WITH ALEF MAKSURA ISOLATED FORM;zaYEH ISOLATED FORM
qJEEM WITH ALEF MAKSURA ISOLATED FORM;zbYEH ISOLATED FORM;qKHAH WITH ALEF MAKSURA ISOLATED FORM
zbYEH ISOLATED FORM;qSAD WITH ALEF MAKSURA ISOLATED FORM;zaYEH ISOLATED FORM
qDAD WITH ALEF MAKSURA ISOLATED FORM;zaYEH ISOLATED FORM;qSHEEN WITH JEEM ISOLATED FORM
zcHAH ISOLATED FORM;zcKHAH ISOLATED FORM;zcMEEM ISOLATED FORM;zcREH ISOLATED FORM
rEEN WITH REH ISOLATED FORM;rAD WITH REH ISOLATED FORM;qDAD WITH REH ISOLATED FORM
qTAH WITH ALEF MAKSURA FINAL FORM;zaYEH FINAL FORM;qAIN WITH ALEF MAKSURA FINAL FORM
zaYEH FINAL FORM;qGHAIN WITH ALEF MAKSURA FINAL FORM;zcYEH FINAL FORM
qSEEN WITH ALEF MAKSURA FINAL FORM;zbYEH FINAL FORM;rHEEN WITH ALEF MAKSURA FINAL FORM
zcYEH FINAL FORM;qHAH WITH ALEF MAKSURA FINAL FORM;zaYEH FINAL FORM
qJEEM WITH ALEF MAKSURA FINAL FORM;zbYEH FINAL FORM;qKHAH WITH ALEF MAKSURA FINAL FORM
zbYEH FINAL FORM;qSAD WITH ALEF MAKSURA FINAL FORM;zaYEH FINAL FORM
qDAD WITH ALEF MAKSURA FINAL FORM;zaYEH FINAL FORM;qSHEEN WITH JEEM FINAL FORM;zcHAH FINAL FORM
zcKHAH FINAL FORM;zcMEEM FINAL FORM;zcREH FINAL FORM;rEEN WITH REH FINAL FORM
rAD WITH REH FINAL FORM;qDAD WITH REH FINAL FORM;qSHEEN WITH JEEM INITIAL FORM;zcHAH INITIAL FORM
zcKHAH INITIAL FORM;zcMEEM INITIAL FORM;rEEN WITH HEH INITIAL FORM;rHEEN WITH HEH INITIAL FORM
qTAH WITH MEEM INITIAL FORM;qSEEN WITH JEEM MEDIAL FORM;zbHAH MEDIAL FORM;zbKHAH MEDIAL FORM
rHEEN WITH JEEM MEDIAL FORM;zcHAH MEDIAL FORM;zcKHAH MEDIAL FORM;qTAH WITH MEEM MEDIAL FORM
qZAH WITH MEEM MEDIAL FORM;qALEF WITH FATHATAN FINAL FORM;zkISOLATED FORM;aORNATE LEFT PARENTHESIS
hRIGHT PARENTHESIS;aARABIC LIGATURE RAHIMAHU ALLAAH;sDI ALLAAHU ANH;zhAA;zhUM;zjAA;ziNNA
qSALLALLAAHU ALAYHI WA-AALIH;qALAYHI AS-SALAAM;wM AS-SALAAM;xAA AS-SALAAM;w AS-SALAATU WAS-SALAAM
qQUDDISA SIRRAH;qSALLALLAHU ALAYHI WAAALIHEE WA-SALLAM;qALAYHAA AS-SALAAM;qTABAARAKA WA-TAAALAA
qRAHIMAHUM ALLAAH;qTEH WITH JEEM WITH MEEM INITIAL FORM;zaHAH WITH JEEM FINAL FORM;zoINITIAL FORM
zjMEEM INITIAL FORM;zaKHAH WITH MEEM INITIAL FORM;zaMEEM WITH JEEM INITIAL FORM;zkHAH INITIAL FORM
zkKHAH INITIAL FORM;qJEEM WITH MEEM WITH HAH FINAL FORM;zpINITIAL FORM
qHAH WITH MEEM WITH YEH FINAL FORM;zkALEF MAKSURA FINAL FORM;qSEEN WITH HAH WITH JEEM INITIAL FORM
zbJEEM WITH HAH INITIAL FORM;zlALEF MAKSURA FINAL FORM;zbMEEM WITH HAH FINAL FORM;zpINITIAL FORM
zlJEEM INITIAL FORM;zlMEEM FINAL FORM;zqINITIAL FORM;rAD WITH HAH WITH HAH FINAL FORM
znINITIAL FORM;zaMEEM WITH MEEM FINAL FORM;rHEEN WITH HAH WITH MEEM FINAL FORM;zqINITIAL FORM
zcJEEM WITH YEH FINAL FORM;zcMEEM WITH KHAH FINAL FORM;zrINITIAL FORM;zmMEEM FINAL FORM
zrINITIAL FORM;qDAD WITH HAH WITH ALEF MAKSURA FINAL FORM;zaKHAH WITH MEEM FINAL FORM
zpINITIAL FORM;qTAH WITH MEEM WITH HAH FINAL FORM;zoINITIAL FORM;zkMEEM INITIAL FORM
zkYEH FINAL FORM;qAIN WITH JEEM WITH MEEM FINAL FORM;zaMEEM WITH MEEM FINAL FORM;zpINITIAL FORM
zkALEF MAKSURA FINAL FORM;qGHAIN WITH MEEM WITH MEEM FINAL FORM;zmYEH FINAL FORM
zmALEF MAKSURA FINAL FORM;qFEH WITH KHAH WITH MEEM FINAL FORM;zpINITIAL FORM
qQAF WITH MEEM WITH HAH FINAL FORM;zkMEEM FINAL FORM;qLAM WITH HAH WITH MEEM FINAL FORM
zjYEH FINAL FORM;zjALEF MAKSURA FINAL FORM;zaJEEM WITH JEEM INITIAL FORM;zpFINAL FORM
zaKHAH WITH MEEM FINAL FORM;zpINITIAL FORM;zaMEEM WITH HAH FINAL FORM;zoINITIAL FORM
qMEEM WITH HAH WITH JEEM INITIAL FORM;zkMEEM INITIAL FORM;zkYEH FINAL FORM
zbJEEM WITH HAH INITIAL FORM;zlMEEM INITIAL FORM;zbKHAH WITH JEEM INITIAL FORM;zlMEEM INITIAL FORM
3zbJEEM WITH KHAH INITIAL FORM;qHEH WITH MEEM WITH JEEM INITIAL FORM;zkMEEM INITIAL FORM
qNOON WITH HAH WITH MEEM INITIAL FORM;zkALEF MAKSURA FINAL FORM;zbJEEM WITH MEEM FINAL FORM
zqINITIAL FORM;zlALEF MAKSURA FINAL FORM;zbMEEM WITH YEH FINAL FORM;zlALEF MAKSURA FINAL FORM
qYEH WITH MEEM WITH MEEM FINAL FORM;zpINITIAL FORM;qBEH WITH KHAH WITH YEH FINAL FORM
qTEH WITH JEEM WITH YEH FINAL FORM;zkALEF MAKSURA FINAL FORM;zaKHAH WITH YEH FINAL FORM
zkALEF MAKSURA FINAL FORM;zaMEEM WITH YEH FINAL FORM;zkALEF MAKSURA FINAL FORM
qJEEM WITH MEEM WITH YEH FINAL FORM;zbHAH WITH ALEF MAKSURA FINAL FORM
zbMEEM WITH ALEF MAKSURA FINAL FORM;qSEEN WITH KHAH WITH ALEF MAKSURA FINAL FORM
rAD WITH HAH WITH YEH FINAL FORM;rHEEN WITH HAH WITH YEH FINAL FORM
qDAD WITH HAH WITH YEH FINAL FORM;qLAM WITH JEEM WITH YEH FINAL FORM;zaMEEM WITH YEH FINAL FORM
qYEH WITH HAH WITH YEH FINAL FORM;zaJEEM WITH YEH FINAL FORM;zaMEEM WITH YEH FINAL FORM
qMEEM WITH MEEM WITH YEH FINAL FORM;qQAF WITH MEEM WITH YEH FINAL FORM
qNOON WITH HAH WITH YEH FINAL FORM;qQAF WITH MEEM WITH HAH INITIAL FORM
qLAM WITH HAH WITH MEEM INITIAL FORM;qAIN WITH MEEM WITH YEH FINAL FORM
qKAF WITH MEEM WITH YEH FINAL FORM;qNOON WITH JEEM WITH HAH INITIAL FORM
qMEEM WITH KHAH WITH YEH FINAL FORM;qLAM WITH JEEM WITH MEEM INITIAL FORM
qKAF WITH MEEM WITH MEEM FINAL FORM;qLAM WITH JEEM WITH MEEM FINAL FORM
qNOON WITH JEEM WITH HAH FINAL FORM;qJEEM WITH HAH WITH YEH FINAL FORM
qHAH WITH JEEM WITH YEH FINAL FORM;qMEEM WITH JEEM WITH YEH FINAL FORM
qFEH WITH MEEM WITH YEH FINAL FORM;qBEH WITH HAH WITH YEH FINAL FORM
qKAF WITH MEEM WITH MEEM INITIAL FORM;qAIN WITH JEEM WITH MEEM INITIAL FORM
qSAD WITH MEEM WITH MEEM INITIAL FORM;rEEN WITH KHAH WITH YEH FINAL FORM
qNOON WITH JEEM WITH YEH FINAL FORM;8qSALAAMUHU ALAYNAA
21tLA USED AS KORANIC STOP SIGN ISOLATED FORM;qQALA USED AS KORANIC STOP SIGN ISOLATED FORM
qALLAH ISOLATED FORM;rKBAR ISOLATED FORM;qMOHAMMAD ISOLATED FORM;qSALAM ISOLATED FORM
qRASOUL ISOLATED FORM;qALAYHE ISOLATED FORM;qWASALLAM ISOLATED FORM;qSALLA ISOLATED FORM
vLLAHOU ALAYHE WASALLAM;qJALLAJALALOUHOU;aRIAL SIGN;aARABIC LIGATURE BISMILLAH AR-RAHMAN AR-RAHEEM
qSUBHAANAHU WA TAAALAA;qAZZA WA JALL;aVARIATION SELECTOR-1;0bS1;bARIATION SELECTOR-2;0bS2
bARIATION SELECTOR-3;0bS3;bARIATION SELECTOR-4;0bS4;bARIATION SELECTOR-5;0bS5;bARIATION SELECTOR-6
0bS6;bARIATION SELECTOR-7;0bS7;bARIATION SELECTOR-8;0bS8;bARIATION SELECTOR-9;0bS9
bARIATION SELECTOR-10;0bS10;bARIATION SELECTOR-11;0bS11;bARIATION SELECTOR-12;0bS12
bARIATION SELECTOR-13;0bS13;bARIATION SELECTOR-14;0bS14;bARIATION SELECTOR-15;0bS15
bARIATION SELECTOR-16;0bS16;aPRESENTATION FORM FOR VERTICAL COMMA;zgIDEOGRAPHIC COMMA;zsFULL STOP
zgCOLON;zgSEMICOLON;zgEXCLAMATION MARK;zgQUESTION MARK;zgLEFT WHITE LENTICULAR BRACKET
zgRIGHT WHITE LENTICULAR BRACKET;0zzLAR BRAKCET;zgHORIZONTAL ELLIPSIS
7aCOMBINING LIGATURE LEFT HALF;tRIGHT HALF;kDOUBLE TILDE LEFT HALF;xRIGHT HALF;kMACRON LEFT HALF
rRIGHT HALF;kCONJOINING MACRON;kLIGATURE LEFT HALF BELOW;tRIGHT HALF BELOW;kTILDE LEFT HALF BELOW
qRIGHT HALF BELOW;kMACRON LEFT HALF BELOW;rRIGHT HALF BELOW;kCONJOINING MACRON BELOW
lYRILLIC TITLO LEFT HALF;zaRIGHT HALF;aPRESENTATION FORM FOR VERTICAL TWO DOT LEADER;zgEM DASH
zhN DASH;zgLOW LINE;zgWAVY LOW LINE;zgLEFT PARENTHESIS;zgRIGHT PARENTHESIS;zgLEFT CURLY BRACKET
zgRIGHT CURLY BRACKET;zgLEFT TORTOISE SHELL BRACKET;zgRIGHT TORTOISE SHELL BRACKET
zgLEFT BLACK LENTICULAR BRACKET;zgRIGHT BLACK LENTICULAR BRACKET;zgLEFT DOUBLE ANGLE BRACKET
zgRIGHT DOUBLE ANGLE BRACKET;zgLEFT ANGLE BRACKET;zgRIGHT ANGLE BRACKET;zgLEFT CORNER BRACKET
zgRIGHT CORNER BRACKET;zgLEFT WHITE CORNER BRACKET;zgRIGHT WHITE CORNER BRACKET;aSESAME DOT
aWHITE SESAME DOT;aPRESENTATION FORM FOR VERTICAL LEFT SQUARE BRACKET;zgRIGHT SQUARE BRACKET
aDASHED OVERLINE;aCENTRELINE OVERLINE;aWAVY OVERLINE;aDOUBLE WAVY OVERLINE;bASHED LOW LINE
aCENTRELINE LOW LINE;aWAVY LOW LINE;aSMALL COMMA;gIDEOGRAPHIC COMMA;gFULL STOP;2gSEMICOLON;gCOLON
gQUESTION MARK;gEXCLAMATION MARK;hM DASH;gLEFT PARENTHESIS;gRIGHT PARENTHESIS;gLEFT CURLY BRACKET
gRIGHT CURLY BRACKET;gLEFT TORTOISE SHELL BRACKET;gRIGHT TORTOISE SHELL BRACKET;gNUMBER SIGN
gAMPERSAND;hSTERISK;gPLUS SIGN;gHYPHEN-MINUS;gLESS-THAN SIGN;gGREATER-THAN SIGN;gEQUALS SIGN
2gREVERSE SOLIDUS;gDOLLAR SIGN;gPERCENT SIGN;gCOMMERCIAL AT;5aARABIC FATHATAN ISOLATED FORM
hTATWEEL WITH FATHATAN ABOVE;hDAMMATAN ISOLATED FORM;hTAIL FRAGMENT;hKASRATAN ISOLATED FORM
2hFATHA ISOLATED FORM;nMEDIAL FORM;hDAMMA ISOLATED FORM;nMEDIAL FORM;hKASRA ISOLATED FORM
nMEDIAL FORM;hSHADDA ISOLATED FORM;oMEDIAL FORM;iUKUN ISOLATED FORM;nMEDIAL FORM
hLETTER HAMZA ISOLATED FORM;oALEF WITH MADDA ABOVE ISOLATED FORM;zlFINAL FORM
yHAMZA ABOVE ISOLATED FORM;zlFINAL FORM;oWAW WITH HAMZA ABOVE ISOLATED FORM;zkFINAL FORM
oALEF WITH HAMZA BELOW ISOLATED FORM;zlFINAL FORM;oYEH WITH HAMZA ABOVE ISOLATED FORM;zkFINAL FORM
zkINITIAL FORM;zkMEDIAL FORM;oALEF ISOLATED FORM;tFINAL FORM;oBEH ISOLATED FORM;sFINAL FORM
sINITIAL FORM;sMEDIAL FORM;oTEH MARBUTA ISOLATED FORM;zbFINAL FORM;sISOLATED FORM;sFINAL FORM
sINITIAL FORM;sMEDIAL FORM;pHEH ISOLATED FORM;tFINAL FORM;tINITIAL FORM;tMEDIAL FORM
oJEEM ISOLATED FORM;tFINAL FORM;tINITIAL FORM;tMEDIAL FORM;oHAH ISOLATED FORM;sFINAL FORM
sINITIAL FORM;sMEDIAL FORM;oKHAH ISOLATED FORM;tFINAL FORM;tINITIAL FORM;tMEDIAL FORM
oDAL ISOLATED FORM;sFINAL FORM;oTHAL ISOLATED FORM;tFINAL FORM;oREH ISOLATED FORM;sFINAL FORM
oZAIN ISOLATED FORM;tFINAL FORM;oSEEN ISOLATED FORM;tFINAL FORM;tINITIAL FORM;tMEDIAL FORM
pHEEN ISOLATED FORM;uFINAL FORM;uINITIAL FORM;uMEDIAL FORM;pAD ISOLATED FORM;sFINAL FORM
sINITIAL FORM;sMEDIAL FORM;oDAD ISOLATED FORM;sFINAL FORM;sINITIAL FORM;sMEDIAL FORM
oTAH ISOLATED FORM;sFINAL FORM;sINITIAL FORM;sMEDIAL FORM;oZAH ISOLATED FORM;sFINAL FORM
sINITIAL FORM;sMEDIAL FORM;oAIN ISOLATED FORM;sFINAL FORM;sINITIAL FORM;sMEDIAL FORM
oGHAIN ISOLATED FORM;uFINAL FORM;uINITIAL FORM;uMEDIAL FORM;oFEH ISOLATED FORM;sFINAL FORM
sINITIAL FORM;sMEDIAL FORM;oQAF ISOLATED FORM;sFINAL FORM;sINITIAL FORM;sMEDIAL FORM
oKAF ISOLATED FORM;sFINAL FORM;sINITIAL FORM;sMEDIAL FORM;oLAM ISOLATED FORM;sFINAL FORM
sINITIAL FORM;sMEDIAL FORM;oMEEM ISOLATED FORM;tFINAL FORM;tINITIAL FORM;tMEDIAL FORM
oNOON ISOLATED FORM;tFINAL FORM;tINITIAL FORM;tMEDIAL FORM;oHEH ISOLATED FORM;sFINAL FORM
sINITIAL FORM;sMEDIAL FORM;oWAW ISOLATED FORM;sFINAL FORM;oALEF MAKSURA ISOLATED FORM;zcFINAL FORM
oYEH ISOLATED FORM;sFINAL FORM;sINITIAL FORM;sMEDIAL FORM
iIGATURE LAM WITH ALEF WITH MADDA ABOVE ISOLATED FORM;zwFINAL FORM;zkHAMZA ABOVE ISOLATED FORM
zwFINAL FORM;zqBELOW ISOLATED FORM;zwFINAL FORM;zfISOLATED FORM;zfFINAL FORM;3aBOM;0bYTE ORDER MARK
0aZERO WIDTH NO-BREAK SPACE;0bWNBSP;2aFULLWIDTH EXCLAMATION MARK;kQUOTATION MARK;kNUMBER SIGN
kDOLLAR SIGN;kPERCENT SIGN;kAMPERSAND;lPOSTROPHE;kLEFT PARENTHESIS;kRIGHT PARENTHESIS;kASTERISK
kPLUS SIGN;kCOMMA;kHYPHEN-MINUS;kFULL STOP;kSOLIDUS;kDIGIT ZERO;qONE;qTWO;rHREE;qFOUR;rIVE;qSIX
rEVEN;qEIGHT;qNINE;kCOLON;kSEMICOLON;kLESS-THAN SIGN;kEQUALS SIGN;kGREATER-THAN SIGN;kQUESTION MARK
kCOMMERCIAL AT;kLATIN CAPITAL LETTER A;zgB;zgC;zgD;zgE;zgF;zgG;zgH;zgI;zgJ;zgK;zgL;zgM;zgN;zgO;zgP
zgQ;zgR;zgS;zgT;zgU;zgV;zgW;zgX;zgY;zgZ;lEFT SQUARE BRACKET;kREVERSE SOLIDUS;lIGHT SQUARE BRACKET
kCIRCUMFLEX ACCENT;kLOW LINE;kGRAVE ACCENT;kLATIN SMALL LETTER A;zeB;zeC;zeD;zeE;zeF;zeG;zeH;zeI
zeJ;zeK;zeL;zeM;zeN;zeO;zeP;zeQ;zeR;zeS;zeT;zeU;zeV;zeW;zeX;zeY;zeZ;lEFT CURLY BRACKET
kVERTICAL LINE;kRIGHT CURLY BRACKET;kTILDE;kLEFT WHITE PARENTHESIS;kRIGHT WHITE PARENTHESIS
aHALFWIDTH IDEOGRAPHIC FULL STOP;kLEFT CORNER BRACKET;kRIGHT CORNER BRACKET;kIDEOGRAPHIC COMMA
kKATAKANA MIDDLE DOT;tLETTER WO;zbSMALL A;zhI;zhU;zhE;zhO;zhYA;ziU;ziO;zhTU
s-HIRAGANA PROLONGED SOUND MARK;s LETTER A;zbI;zbU;zbE;zbO;zbKA;zcI;zcU;zcE;zcO;zbSA;zcI;zcU;zcE
zcO;zbTA;zcI;zcU;zcE;zcO;zbNA;zcI;zcU;zcE;zcO;zbHA;zcI;zcU;zcE;zcO;zbMA;zcI;zcU;zcE;zcO;zbYA;zcU
zcO;zbRA;zcI;zcU;zcE;zcO;zbWA;zbN;tVOICED SOUND MARK;tSEMI-VOICED SOUND MARK;kHANGUL FILLER
rLETTER KIYEOK;ySSANGKIYEOK;yKIYEOK-SIOS;yNIEUN;ze-CIEUC;zfHIEUH;yTIKEUT;ySSANGTIKEUT;yRIEUL
ze-KIYEOK;zfMIEUM;zfPIEUP;zfSIOS;zfTHIEUTH;zfPHIEUPH;zfHIEUH;yMIEUM;yPIEUP;ySSANGPIEUP;yPIEUP-SIOS
ySIOS;zaSANGSIOS;yIEUNG;yCIEUC;ySSANGCIEUC;yCHIEUCH;yKHIEUKH;yTHIEUTH;yPHIEUPH;yHIEUH;4yA;zaE;yYA
zbE;yEO;za;3yYEO;zb;yO;yWA;zbE;yOE;3yYO;yU;yWEO;zb;zaI;yYU;3yEU;yYI;yI;4aFULLWIDTH CENT SIGN
kPOUND SIGN;kNOT SIGN;kMACRON;kBROKEN BAR;kYEN SIGN;kWON SIGN;2aHALFWIDTH FORMS LIGHT VERTICAL
kLEFTWARDS ARROW;kUPWARDS ARROW;kRIGHTWARDS ARROW;kDOWNWARDS ARROW;kBLACK SQUARE;kWHITE CIRCLE
BaINTERLINEAR ANNOTATION ANCHOR;xSEPARATOR;xTERMINATOR;aOBJECT REPLACEMENT CHARACTER
aREPLACEMENT CHARACTER;3aLINEAR B SYLLABLE B008 A;u38 E;u28 I;u61 O;u10 U;u01 DA;u45 DE;u07 DI
u14 DO;u51 DU;v7 JA;u46 JE;2u36 JO;u65 JU;u77 KA;u44 KE;u67 KI;u70 KO;u81 KU;v0 MA;u13 ME;u73 MI
u15 MO;u23 MU;u06 NA;u24 NE;u30 NI;u52 NO;v5 NU;u03 PA;u72 PE;u39 PI;u11 PO;u50 PU;u16 QA;u78 QE
u21 QI;u32 QO;2u60 RA;u27 RE;u53 RI;u02 RO;u26 RU;u31 SA;u09 SE;u41 SI;u12 SO;u58 SU;v9 TA;u04 TE
u37 TI;u05 TO;u69 TU;u54 WA;u75 WE;u40 WI;v2 WO;2u17 ZA;u74 ZE;2u20 ZO;v5 A2;u43 A3;u85 AU;u71 DWE
u90 DWO;u48 NWA;u29 PU2;u62 PTE;u76 RA2;u33 RA3;u68 RO2;v6 TA2;u87 TWE;u91 TWO;3lMBOL B018;t9;s22
s34;s47;t9;s56;s63;t4;s79;s82;t3;t6;t9;23jIDEOGRAM B100 MAN;v2 WOMAN;v4 DEER;v5 EQUID;wF MARE
wM STALLION;v6F EWE;wM RAM;v7F SHE-GOAT;wM HE-GOAT;v8F SOW;wM BOAR;v9F COW;wM BULL;u20 WHEAT
v1 BARLEY;v2 OLIVE;v3 SPICE;v5 CYPERUS;jMONOGRAM B127 KAPO;v8 KANAKO;jIDEOGRAM B130 OIL;v1 WINE;v2
jMONOGRAM B133 AREPA;v5 MERI;jIDEOGRAM B140 BRONZE;v1 GOLD;v2;v5 WOOL;v6;u50;v1 HORN;v2;v3;v4
jMONOGRAM B156 TURO2;jIDEOGRAM B157;v8;v9 CLOTH;u60;v1;v2 GARMENT;v3 ARMOUR;v4;v5;v6;v7;v8;v9;u70
v1;v2;v3 MONTH;v4;v6 TREE;v7;v8;v9;u80;v1;v2;v3;v4;v5;v9;u90;v1 HELMET;t220 FOOTSTOOL;v5 BATHTUB
u30 SPEAR;v1 ARROW;v2;v3 SWORD;v4;v6;u40 WHEELED CHARIOT;v1 CHARIOT;v2 CHARIOT FRAME;v3 WHEEL;v5;v6
jMONOGRAM B247 DIPTE;jIDEOGRAM B248;v9;u51;v2;v3;v4 DART;v5;v6;v7;v8;v9;sVESSEL B155;zb200;zd1;zd2
zd3;zd4;zd5;zd6;zd7;zd8;zd9;zc10;zd1;zd2;zd3;zd4;zd5;zd6;zd7;zd8;zd9;zc21;zd2;zd6;zd7;zd8;zd9;zc50
zb305;6aAEGEAN WORD SEPARATOR LINE;wDOT;hCHECK MARK;5hNUMBER ONE;oTWO;pHREE;oFOUR;pIVE;oSIX;pEVEN
oEIGHT;oNINE;oTEN;pWENTY;pHIRTY;oFORTY;pIFTY;oSIXTY;pEVENTY;oEIGHTY;oNINETY;oONE HUNDRED
oTWO HUNDRED;pHREE HUNDRED;oFOUR HUNDRED;pIVE HUNDRED;oSIX HUNDRED;pEVEN HUNDRED;oEIGHT HUNDRED
oNINE HUNDRED;oONE THOUSAND;oTWO THOUSAND;pHREE THOUSAND;oFOUR THOUSAND;pIVE THOUSAND;oSIX THOUSAND
pEVEN THOUSAND;oEIGHT THOUSAND;oNINE THOUSAND;oTEN THOUSAND;pWENTY THOUSAND;pHIRTY THOUSAND
oFORTY THOUSAND;pIFTY THOUSAND;oSIXTY THOUSAND;pEVENTY THOUSAND;oEIGHTY THOUSAND;oNINETY THOUSAND
4hWEIGHT BASE UNIT;oFIRST SUBUNIT;oSECOND SUBUNIT;oTHIRD SUBUNIT;oFOURTH SUBUNIT
hDRY MEASURE FIRST SUBUNIT;hLIQUID MEASURE FIRST SUBUNIT;hMEASURE SECOND SUBUNIT;pTHIRD SUBUNIT
aGREEK ACROPHONIC ATTIC ONE QUARTER;zcHALF;zcDRACHMA;xFIVE;zaFTY;zaVE HUNDRED;zdTHOUSAND
zaFTY THOUSAND;zaVE TALENTS;xTEN TALENTS;xFIFTY TALENTS;xONE HUNDRED TALENTS;xFIVE HUNDRED TALENTS
xONE THOUSAND TALENTS;xFIVE THOUSAND TALENTS;zdSTATERS;xTEN STATERS;xFIFTY STATERS
xONE HUNDRED STATERS;xFIVE HUNDRED STATERS;xONE THOUSAND STATERS;xTEN THOUSAND STATERS
xFIFTY THOUSAND STATERS;xTEN MNAS;rHERAEUM ONE PLETHRON;rTHESPIAN ONE;rHERMIONIAN ONE
rEPIDAUREAN TWO;rTHESPIAN TWO;rCYRENAIC TWO DRACHMAS;rEPIDAUREAN TWO DRACHMAS;rTROEZENIAN FIVE
zdTEN;zg ALTERNATE FORM;rHERMIONIAN TEN;rMESSENIAN TEN;rTHESPIAN TEN;zcHIRTY;sROEZENIAN FIFTY
zi ALTERNATE FORM;rHERMIONIAN FIFTY;rTHESPIAN FIFTY;zbONE HUNDRED;zbTHREE HUNDRED
rEPIDAUREAN FIVE HUNDRED;rTROEZENIAN FIVE HUNDRED;sHESPIAN FIVE HUNDRED;rCARYSTIAN FIVE HUNDRED
rNAXIAN FIVE HUNDRED;rTHESPIAN ONE THOUSAND;zbFIVE THOUSAND;rDELPHIC FIVE MNAS;rSTRATIAN FIFTY MNAS
gONE HALF SIGN;t ALTERNATE FORM;gTWO THIRDS SIGN;hHREE QUARTERS SIGN;gYEAR SIGN;gTALENT SIGN
gDRACHMA SIGN;gOBOL SIGN;gTWO OBOLS SIGN;hHREE OBOLS SIGN;gFOUR OBOLS SIGN;hIVE OBOLS SIGN
gMETRETES SIGN;gKYATHOS BASE SIGN;gLITRA SIGN;gOUNKIA SIGN;gXESTES SIGN;gARTABE SIGN;iOURA SIGN
gGRAMMA SIGN;gTRYBLION BASE SIGN;gZERO SIGN;gONE QUARTER SIGN;gSINUSOID SIGN;gINDICTION SIGN
aNOMISMA SIGN;2aROMAN SEXTANS SIGN;gUNCIA SIGN;gSEMUNCIA SIGN;iXTULA SIGN;gDIMIDIA SEXTULA SIGN
gSILIQUA SIGN;gDENARIUS SIGN;gQUINARIUS SIGN;gSESTERTIUS SIGN;gDUPONDIUS SIGN;gAS SIGN
gCENTURIAL SIGN;aASCIA SYMBOL;4aGREEK SYMBOL TAU RHO;30aPHAISTOS DISC SIGN PEDESTRIAN;uLUMED HEAD
tTATTOOED HEAD;tCAPTIVE;uHILD;tWOMAN;tHELMET;tGAUNTLET;tTIARA;tARROW;tBOW;tSHIELD;tCLUB;tMANACLES
vTTOCK;tSAW;tLID;tBOOMERANG;tCARPENTRY PLANE;tDOLIUM;tCOMB;tSLING;tCOLUMN;tBEEHIVE;tSHIP;tHORN;uIDE
tBULLS LEG;tCAT;tRAM;tEAGLE;tDOVE;tTUNNY;tBEE;tPLANE TREE;tVINE;tPAPYRUS;tROSETTE;tLILY;tOX BACK
tFLUTE;tGRATER;tSTRAINER;uMALL AXE;tWAVY BAND;tCOMBINING OBLIQUE STROKE;83aLYCIAN LETTER A;oE;oB;pH
oG;oD;oI;oW;oZ;oTH;oJ;oK;oQ;oL;oM;oN;oMM;oNN;oU;oP;oKK;oR;oS;oT;pT;oAN;oEN;oH;oX;4aCARIAN LETTER A
oP2;oD;oL;oUUU;oR;oLD;oA2;oQ;oB;oM;oO;oD2;oT;oSH;q2;p;oC-18;oU;oNN;oX;oN;oTT2;oP;oSS;oI;oE;oUUUU;oK
p2;oND;oUU;oG;p2;oST;q2;oNG;oII;oC-39;oTT;oUUU2;oRR;oMB;q2;q3;q4;oLD2;oE2;oUUU3
10bOPTIC EPACT THOUSANDS MARK;nDIGIT ONE;tTWO;uHREE;tFOUR;uIVE;tSIX;uEVEN;tEIGHT;tNINE;nNUMBER TEN
vWENTY;vHIRTY;uFORTY;vIFTY;uSIXTY;vEVENTY;uEIGHTY;uNINETY;uONE HUNDRED;uTWO HUNDRED;vHREE HUNDRED
uFOUR HUNDRED;vIVE HUNDRED;uSIX HUNDRED;vEVEN HUNDRED;uEIGHT HUNDRED;uNINE HUNDRED
5aOLD ITALIC LETTER A;sBE;sKE;sDE;sE;sVE;sZE;sHE;sTHE;sI;sKA;sEL;tM;tN;tSH;sO;sPE;sSHE;sKU;sER;tS
sTE;sU;sEKS;sPHE;sKHE;sEF;tRS;sCHE;sII;sUU;sESS;lNUMERAL ONE;tFIVE;tTEN;tFIFTY;AlLETTER YE
sNORTHERN TSE;sSOUTHERN TSE;aGOTHIC LETTER AHSA;oBAIRKAN;oGIBA;oDAGS;oAIHVUS;oQAIRTHRA;oIUJA;oHAGL
oTHIUTH;oEIS;oKUSMA;oLAGUS;oMANNA;oNAUTHS;oJER;oURUS;oPAIRTHRA;oNINETY;oRAIDA;oSAUIL;oTEIWS;oWINJA
oFAIHU;oIGGWS;oHWAIR;oOTHAL;oNINE HUNDRED;6aOLD PERMIC LETTER AN;sBUR;sGAI;sDOI;sE;sZHOI;sDZHOI
sZATA;sDZITA;sI;sKOKE;sLEI;sMENOE;sNENOE;sVOOI;sPEEI;sREI;sSII;sTAI;sU;sCHERY;sSHOOI;uCHOOI;sYRY
tERU;sO;tO;sEF;sHA;sTSIU;sVER;sYER;vI;tAT;sIE;sYU;tA;sIA;aCOMBINING OLD PERMIC LETTER AN;zdDOI
zdZATA;zdNENOE;zdSII;6aUGARITIC LETTER ALPA;qBETA;qGAMLA;qKHA;qDELTA;qHO;qWO;qZETA;qHOTA;qTET;qYOD
qKAF;qSHIN;qLAMDA;qMEM;qDHAL;qNUN;qZU;qSAMKA;qAIN;qPU;qSADE;qQOPA;qRASHA;qTHANNA;qGHAIN;qTO;qI;qU
qSSU;2jWORD DIVIDER;aOLD PERSIAN SIGN A;rI;rU;rKA;sU;rGA;sU;rXA;rCA;rJA;sI;rTA;sU;rDA;sI;sU;rTHA
rPA;rBA;rFA;rNA;sU;rMA;sI;sU;rYA;rVA;sI;rRA;sU;rLA;rSA;rZA;rSHA;sSA;rHA;5rAURAMAZDAA;zc-2;zcHA
rXSHAAYATHIYA;rDAHYAAUSH;zb-2;rBAGA;sUUMISH;mWORD DIVIDER;mNUMBER ONE;tTWO;uEN;uWENTY;tHUNDRED
2BaDESERET CAPITAL LETTER LONG I;zdE;zdA;zeH;zdO;zeO;xSHORT I;zeE;zeA;zfH;zeO;zfO;xAY;xOW;xWU;xYEE
xH;xPEE;xBEE;xTEE;xDEE;xCHEE;xJEE;xKAY;xGAY;xEF;xVEE;xETH;xTHEE;xES;xZEE;xESH;xZHEE;xER;yL;yM;yN
zaG;xOI;xEW;iSMALL LETTER LONG I;zbE;zbA;zcH;zbO;zcO;vSHORT I;zcE;zcA;zdH;zcO;zdO;vAY;vOW;vWU;vYEE
vH;vPEE;vBEE;vTEE;vDEE;vCHEE;vJEE;vKAY;vGAY;vEF;vVEE;vETH;vTHEE;vES;vZEE;vESH;vZHEE;vER;wL;wM;wN;xG
vOI;vEW;aSHAVIAN LETTER PEEP;pTOT;pKICK;pFEE;pTHIGH;pSO;qURE;pCHURCH;pYEA;pHUNG;pBIB;pDEAD;pGAG
pVOW;pTHEY;pZOO;pMEASURE;pJUDGE;pWOE;pHA-HA;pLOLL;pMIME;pIF;pEGG;pASH;qDO;pON;pWOOL;pOUT;pAH;pROAR
pNUN;pEAT;pAGE;pICE;pUP;pOAK;qOZE;qIL;pAWE;qRE;pOR;pAIR;pERR;pARRAY;pEAR;pIAN;pYEW
aOSMANYA LETTER ALEF;pBA;pTA;pJA;pXA;pKHA;pDEEL;pRA;pSA;qHIIN;pDHA;pCAYN;pGA;pFA;pQAAF;pKAAF;pLAAN
pMIIN;pNUUN;pWAW;pHA;pYA;pA;pE;pI;pO;pU;pAA;pEE;pOO;3iDIGIT ZERO;oONE;oTWO;pHREE;oFOUR;pIVE;oSIX
pEVEN;oEIGHT;oNINE;7cAGE CAPITAL LETTER A;wI;xN;wH;vBRA;vCHA;vEHCHA;w;wIN;vHA;wYA;vI;vKA;vEHKA;vKYA
vLA;vMA;vNA;vO;wIN;vPA;vEHPA;vSA;wHA;vTA;vEHTA;vTSA;vEHTSA;vTSHA;vDHA;vU;vWA;vKHA;vGHA;vZA;wHA
5gSMALL LETTER A;uI;vN;uH;tBRA;tCHA;tEHCHA;u;uIN;tHA;uYA;tI;tKA;tEHKA;tKYA;tLA;tMA;tNA;tO;uIN;tPA
tEHPA;tSA;uHA;tTA;tEHTA;tTSA;tEHTSA;tTSHA;tDHA;tU;tWA;tKHA;tGHA;tZA;uHA;5aELBASAN LETTER A;pBE;pCE
qHE;pDE;pNDE;pDHE;pEI;q;pFE;pGE;qJE;pHE;pI;pJE;pKE;pLE;qLE;pME;pNE;qA;qJE;pO;pPE;pQE;pRE;qRE;pSE
qHE;pTE;qHE;pU;pVE;pXE;pY;pZE;qHE;pGHE;rAMMA;pKHE;9aCAUCASIAN ALBANIAN LETTER ALT;zbBET;zbGIM;zbDAT
zbEB;zbZARL;zbEYN;zbZHIL;zbTAS;zbCHA;zbYOWD;zbZHA;zbIRB;zbSHA;zbLAN;zbINYA;zbXEYN;zbDYAN;zbCAR
zbJHOX;zbKAR;zbLYIT;zbHEYT;zbQAY;zbAOR;zbCHOY;zdI;zcYAY;zbMAQ;zbQAR;zbNOWC;zbDZYAY;zbSHAK;zbJAYN
zbON;zbTYAY;zbFAM;zbDZAY;zbCHAT;zbPEN;zbGHEYS;zbRAT;zbSEYK;zbVEYZ;zbTIWR;zbSHOY;zbIWN;zbCYAW;zcAYN
zbYAYD;zbPIWR;zbKIW;CtCITATION MARK;aVITHKUQI CAPITAL LETTER A;yBBE;zaE;yCE;zaHE;yDE;zaHE;yEI;za
yFE;yGA;2yHA;zaHA;yI;zaJE;yJE;yKA;yLA;zaLA;yME;yNE;zaJE;yO;yPE;yQA;yRE;2ySE;zaHE;yTE;zaHE;yU;yVE
yXE;2yY;yZE;2jSMALL LETTER A;wBBE;xE;wCE;xHE;wDE;xHE;wEI;x;wFE;wGA;2wHA;xHA;wI;xJE;wJE;wKA;wLA;xLA
wME;wNE;xJE;wO;wPE;wQA;wRE;2wSE;xHE;wTE;xHE;wU;wVE;wXE;2wY;wZE;44aLINEAR A SIGN AB001;s2;s3;s4;s5
s6;s7;s8;s9;r10;s1;s3;s6;s7;r20;s1;tF;tM;s2;tF;tM;s3;tM;s4;s6;s7;s8;p028B;pB029;r30;s1;s4;s7;s8;s9
r40;s1;s4;s5;s6;s7;s8;s9;r50;s1;s3;s4;s5;s6;s7;s8;s9;r60;s1;s5;s6;s7;s9;r70;s3;s4;s6;s7;s8;s9;r80
s1;s2;s5;s6;s7;p100-102;pB118;r20;p120B;pB122;s3;r31A;tB;p131C;pB164;r71;r80;s8;r91;p301;r2;r3;r4
r5;r6;r7;r8;r9A;sB;sC;q10;r1;r2;r3A;sB;sC;r4;r5;r6;r7;r8;r9;q20;r1;r2;r3;r4;r5;r6;r7;r8;r9;q30;r1
r2;r3;r4;r5;r6;r7;r8;r9;q40;r1;r2;r3;r4;r5;r6;r7;r8;r9;q50;r1;r2;r3;r4;r5;r6;r7;r8;r9;q60;r1;r2;r3
r4;r5;r6;r7;r8;r9;q70;r1;p400-VAS;r1-VAS;r2-VAS;r3-VAS;r4-VAS;r5-VAS;r6-VAS;r7-VAS;r8-VAS;r9-VAS
q10-VAS;r1-VAS;r2-VAS;r3-VAS;r4-VAS;r5-VAS;r6-VAS;r7-VAS;r8-VAS;p501;r2;r3;r4;r5;r6;r8;r9;q10;r1;r2
r3;r5;r6;q20;r1;r3;r4;r5;r6;r7;r8;r9;q30;r1;r2;r4;r5;r6;r7;r8;r9;q40;r1;r2;r5;r7;r8;r9;q50;r1;r2;r3
r4;r5;r6;r7;r9;q63;r4;r5;r6;r8;r9;q70;r1;r2;r3;r4;r5;r6;r7;r8;r9;q80;r1;r2;r3;r4;r5;r6;r7;r8;r9;q91
r2;r4;r5;r6;r8;p600;r1;r2;r3;r4;r6;r8;r9;q10;r1;r2;r3;r4;r5;r6;r7;r8;r9;q20;r1;r2;r3;r4;r6;r7;r8;r9
q34;r7;r8;q40;r2;r3;r4;r5;r6;r8;r9;q51;r2;r3;r4;r5;r6;r7;r8;r9;q60;r1;r2;r3;r4;Ap701 A;r2 B;r3 D
r4 E;r5 F;r6 H;r7 J;r8 K;r9 L;s-2 L2;t3 L3;t4 L4;t6 L6;q10 W;r1 X;r2 Y;r3 OMEGA;r4 ABB;r5 BB;r7 DD
q26 EYYY;q32 JE;Bp800;r1;r2;r3;r4;r5;r6;r7;19aMODIFIER LETTER SMALL CAPITAL AA
rUPERSCRIPT TRIANGULAR COLON;zdHALF TRIANGULAR COLON;rMALL AE;wCAPITAL B;wB WITH HOOK;2wDZ DIGRAPH
zh WITH RETROFLEX HOOK;znCURL;xEZH DIGRAPH;x WITH TAIL;zeHOOK;zi AND TAIL;wREVERSED E
wCLOSED REVERSED OPEN E;wFENG DIGRAPH;wRAMS HORN;wCAPITAL G;wG WITH HOOK;wCAPITAL G WITH HOOK
wH WITH STROKE;wCAPITAL H;wHENG WITH HOOK;wDOTLESS J WITH STROKE AND HOOK;wLS DIGRAPH;xZ DIGRAPH
x WITH BELT;wCAPITAL L WITH BELT;wL WITH RETROFLEX HOOK AND BELT;xEZH;zb WITH RETROFLEX HOOK
wTURNED Y;zf WITH BELT;wO WITH STROKE;wCAPITAL OE;xLOSED OMEGA;wQ;wTURNED R WITH LONG LEG
zt AND RETROFLEX HOOK;wR WITH TAIL;zeFISHHOOK;wCAPITAL R;wTC DIGRAPH WITH CURL;xS DIGRAPH
zh WITH RETROFLEX HOOK;xESH DIGRAPH;x WITH RETROFLEX HOOK;wV WITH RIGHT HOOK;2wCAPITAL Y
qGLOTTAL STOP WITH STROKE;qREVERSED GLOTTAL STOP WITH STROKE;qBILABIAL CLICK;qDENTAL CLICK
qLATERAL CLICK;qALVEOLAR CLICK;qRETROFLEX CLICK WITH RETROFLEX HOOK;qSMALL S WITH CURL
46aCYPRIOT SYLLABLE A;rE;rI;rO;rU;rJA;3sO;2rKA;sE;sI;sO;sU;rLA;sE;sI;sO;sU;rMA;sE;sI;sO;sU;rNA;sE
sI;sO;sU;rPA;sE;sI;sO;sU;rRA;sE;sI;sO;sU;rSA;sE;sI;sO;sU;rTA;sE;sI;sO;sU;rWA;sE;sI;sO;2rXA;sE;4rZA
3sO;aIMPERIAL ARAMAIC LETTER ALEPH;yBETH;yGIMEL;yDALETH;yHE;yWAW;yZAYIN;yHETH;yTETH;yYODH;yKAPH
yLAMEDH;yMEM;yNUN;ySAMEKH;yAYIN;yPE;ySADHE;yQOPH;yRESH;ySHIN;yTAW;2rSECTION SIGN;rNUMBER ONE;yTWO
zaHREE;zaEN;zaWENTY;yONE HUNDRED;zdTHOUSAND;yTEN THOUSAND;aPALMYRENE LETTER ALEPH;rBETH;rGIMEL
rDALETH;rHE;rWAW;rZAYIN;rHETH;rTETH;rYODH;rKAPH;rLAMEDH;rMEM;rFINAL NUN;rNUN;rSAMEKH;rAYIN;rPE
rSADHE;rQOPH;rRESH;rSHIN;rTAW;mFT-POINTING FLEURON;kRIGHT-POINTING FLEURON;kNUMBER ONE;rTWO;sHREE
rFOUR;sIVE;rTEN;sWENTY;aNABATAEAN LETTER FINAL ALEPH;rALEPH;rFINAL BETH;rBETH;rGIMEL;rDALETH
rFINAL HE;rHE;rWAW;rZAYIN;rHETH;rTETH;rFINAL YODH;rYODH;rFINAL KAPH;rKAPH;rFINAL LAMEDH;rLAMEDH
rFINAL MEM;rMEM;rFINAL NUN;rNUN;rSAMEKH;rAYIN;rPE;rSADHE;rQOPH;rRESH;rFINAL SHIN;rSHIN;rTAW
9kNUMBER ONE;rTWO;sHREE;rFOUR;kCRUCIFORM NUMBER FOUR;kNUMBER FIVE;rTEN;sWENTY;rONE HUNDRED
31aHATRAN LETTER ALEPH;oBETH;oGIMEL;oDALETH-RESH;oHE;oWAW;oZAYN;oHETH;oTETH;oYODH;oKAPH;oLAMEDH
oMEM;oNUN;oSAMEKH;oAYN;oPE;oSADHE;oQOPH;2oSHIN;oTAW;6hNUMBER ONE;oFIVE;oTEN;pWENTY;oONE HUNDRED
aPHOENICIAN LETTER ALF;sBET;sGAML;sDELT;sHE;sWAU;sZAI;sHET;sTET;sYOD;sKAF;sLAMD;sMEM;sNUN;sSEMK
sAIN;sPE;sSADE;sQOF;sROSH;sSHIN;sTAU;lNUMBER ONE;sTEN;tWENTY;sONE HUNDRED;sTWO;tHREE
4lWORD SEPARATOR;aLYDIAN LETTER A;oB;oG;oD;oE;oV;oI;oY;oK;oL;oM;oN;oO;oR;oSS;oT;oU;oF;oQ;oS;oTT;oAN
oEN;oLY;oNN;oC;6hTRIANGULAR MARK;41aMEROITIC HIEROGLYPHIC LETTER A;zeE;zeI;zeO;zeYA;zeWA;zeBA;zg-2
zePA;zeMA;zeNA;zg-2;zfE;zg-2;zeRA;zg-2;zeLA;zeKHA;zeHHA;zeSA;zg-2;zfE;zeKA;zeQA;zeTA;zg-2;zfE;zg-2
zfO;zeDA;wSYMBOL VIDJ;zi-2;jCURSIVE LETTER A;yE;yI;yO;yYA;yWA;yBA;yPA;yMA;yNA;zaE;yRA;yLA;yKHA;yHHA
ySA;yARCHAIC SA;ySE;yKA;yQA;yTA;zaE;zaO;yDA;5rFRACTION ELEVEN TWELFTHS;zbONE HALF;rLOGOGRAM RMT
zbIMN;rNUMBER ONE;yTWO;zaHREE;yFOUR;zaIVE;ySIX;zaEVEN;yEIGHT;yNINE;yTEN;zaWENTY;zaHIRTY;yFORTY
zaIFTY;ySIXTY;zaEVENTY;3yONE HUNDRED;yTWO HUNDRED;zaHREE HUNDRED;yFOUR HUNDRED;zaIVE HUNDRED
ySIX HUNDRED;zaEVEN HUNDRED;yEIGHT HUNDRED;yNINE HUNDRED;yONE THOUSAND;yTWO THOUSAND
zaHREE THOUSAND;yFOUR THOUSAND;zaIVE THOUSAND;ySIX THOUSAND;zaEVEN THOUSAND;yEIGHT THOUSAND
yNINE THOUSAND;yTEN THOUSAND;zaWENTY THOUSAND;zaHIRTY THOUSAND;yFORTY THOUSAND;zaIFTY THOUSAND
ySIXTY THOUSAND;zaEVENTY THOUSAND;yEIGHTY THOUSAND;yNINETY THOUSAND;yONE HUNDRED THOUSAND
yTWO HUNDRED THOUSAND;zaHREE HUNDRED THOUSAND;yFOUR HUNDRED THOUSAND;zaIVE HUNDRED THOUSAND
ySIX HUNDRED THOUSAND;zaEVEN HUNDRED THOUSAND;yEIGHT HUNDRED THOUSAND;yNINE HUNDRED THOUSAND
rFRACTION ONE TWELFTH;zbTWO TWELFTHS;zcHREE TWELFTHS;zbFOUR TWELFTHS;zcIVE TWELFTHS;zbSIX TWELFTHS
zcEVEN TWELFTHS;zbEIGHT TWELFTHS;zbNINE TWELFTHS;zbTEN TWELFTHS;aKHAROSHTHI LETTER A;lVOWEL SIGN I
wU;wVOCALIC R;2wE;wO;6rLENGTH MARK;lSIGN DOUBLE RING BELOW;qANUSVARA;qVISARGA;lLETTER KA;tHA;sGA
tHA;2sCA;tHA;sJA;2sNYA;sTTA;uHA;sDDA;uHA;sNNA;sTA;tHA;sDA;tHA;sNA;sPA;tHA;sBA;tHA;sMA;sYA;sRA;sLA
sVA;sSHA;tSA;tA;sZA;sHA;sKKA;sTTTHA;vA;sVHA;3lSIGN BAR ABOVE;qCAUDA;qDOT BELOW;5lVIRAMA;lDIGIT ONE
rTWO;sHREE;rFOUR;lNUMBER TEN;tWENTY;sONE HUNDRED;wTHOUSAND;lFRACTION ONE HALF;8lPUNCTUATION DOT
xSMALL CIRCLE;xCIRCLE;yRESCENT BAR;xMANGALAM;xLOTUS;xDANDA;yOUBLE DANDA;xLINES
8aOLD SOUTH ARABIAN LETTER HE;zaLAMEDH;zaHETH;zaMEM;zaQOPH;zaWAW;zaSHIN;zaRESH;zaBETH;zaTAW;zaSAT
zaKAPH;zaNUN;zaKHETH;zaSADHE;zcMEKH;zaFE;zaALEF;zbYN;zaDHADHE;zaGIMEL;zaDALETH;zaGHAYN;zaTETH
zaZAYN;zaDHALETH;zaYODH;zaTHAW;zcETH;sNUMBER ONE;zaFIFTY;vERIC INDICATOR;eNORTH ARABIAN LETTER HEH
zaLAM;zaHAH;zaMEEM;zaQAF;zaWAW;zaES-2;zaREH;zaBEH;zaTEH;zaES-1;zaKAF;zaNOON;zaKHAH;zaSAD;zaES-3
zaFEH;zaALEF;zbIN;zaDAD;zaGEEM;zaDAL;zaGHAIN;zaTAH;zaZAIN;zaTHAL;zaYEH;zaTHEH;zaZAH;sNUMBER ONE
zaTEN;zbWENTY;21aMANICHAEAN LETTER ALEPH;sBETH;tHETH;sGIMEL;tHIMEL;sDALETH;sHE;sWAW;lSIGN UD
lLETTER ZAYIN;tHAYIN;sJAYIN;tHAYIN;sHETH;sTETH;sYODH;sKAPH;sXAPH;sKHAPH;sLAMEDH;sDHAMEDH;sTHAMEDH
sMEM;sNUN;sSAMEKH;sAYIN;tAYIN;sPE;sFE;sSADHE;sQOPH;sXOPH;sQHOPH;sRESH;sSHIN;tSHIN;sTAW
lABBREVIATION MARK ABOVE;zeBELOW;5lNUMBER ONE;sFIVE;sTEN;tWENTY;sONE HUNDRED;lPUNCTUATION STAR
xFLEURON;xDOUBLE DOT WITHIN DOT;zaT WITHIN DOT;zb;xTWO DOTS;xLINE FILLER;AaAVESTAN LETTER A;qA;qO
qAO;qN;qAN;qE;rE;pE;qE;pO;qO;pI;qI;pU;qU;pKE;pXE;qYE;qVE;pGE;qGE;qHE;pCE;pJE;pTE;qHE;pDE;qHE;pTTE
pPE;pFE;pBE;qHE;pNGE;rYE;rVE;qE;qYE;qNE;pME;pHME;pYYE;qE;pVE;pRE;pLE;pSE;pZE;pSHE;pZHE;pSHYE;qSHE
pHE;4iABBREVIATION MARK;aTINY TWO DOTS OVER ONE DOT PUNCTUATION
aSMALL TWO DOTS OVER ONE DOT PUNCTUATION;aLARGE TWO DOTS OVER ONE DOT PUNCTUATION
gONE DOT OVER TWO DOTS PUNCTUATION;gTWO RINGS OVER ONE RING PUNCTUATION
gONE RING OVER TWO RINGS PUNCTUATION;aINSCRIPTIONAL PARTHIAN LETTER ALEPH;zfBETH;zfGIMEL;zfDALETH
zfHE;zfWAW;zfZAYIN;zfHETH;zfTETH;zfYODH;zfKAPH;zfLAMEDH;zfMEM;zfNUN;zfSAMEKH;zfAYIN;zfPE;zfSADHE
zfQOPH;zfRESH;zfSHIN;zfTAW;3xNUMBER ONE;zfTWO;zgHREE;zfFOUR;zfTEN;zgWENTY;zfONE HUNDRED;zjTHOUSAND
qHLAVI LETTER ALEPH;zeBETH;zeGIMEL;zeDALETH;zeHE;zeWAW-AYIN-RESH;zeZAYIN;zeHETH;zeTETH;zeYODH
zeKAPH;zeLAMEDH;zeMEM-QOPH;zeNUN;zeSAMEKH;zePE;zeSADHE;zfHIN;zeTAW;6wNUMBER ONE;zeTWO;zfHREE;zeFOUR
zeTEN;zfWENTY;zeONE HUNDRED;ziTHOUSAND;aPSALTER PAHLAVI LETTER ALEPH;xBETH;xGIMEL;xDALETH;xHE
xWAW-AYIN-RESH;xZAYIN;xHETH;xYODH;xKAPH;xLAMEDH;xMEM-QOPH;xNUN;xSAMEKH;xPE;xSADHE;yHIN;xTAW
8qSECTION MARK;qTURNED SECTION MARK;qFOUR DOTS WITH CROSS;zgDOT;DqNUMBER ONE;xTWO;yHREE;xFOUR;xTEN
yWENTY;xONE HUNDRED;51aOLD TURKIC LETTER ORKHON A;sYENISEI A;zcE;sORKHON I;sYENISEI I;zbE;sORKHON O
zbE;sYENISEI OE;sORKHON AB;sYENISEI AB;sORKHON AEB;sYENISEI AEB;sORKHON AG;sYENISEI AG;sORKHON AEG
sYENISEI AEG;sORKHON AD;sYENISEI AD;sORKHON AED;zaEZ;sYENISEI EZ;sORKHON AY;sYENISEI AY;sORKHON AEY
sYENISEI AEY;sORKHON AEK;sYENISEI AEK;sORKHON OEK;sYENISEI OEK;sORKHON AL;sYENISEI AL;sORKHON AEL
zaELT;zbM;zaAN;zbEN;sYENISEI AEN;sORKHON ENT;sYENISEI ENT;sORKHON ENC;sYENISEI ENC;sORKHON ENY
sYENISEI ENY;zbANG;sORKHON ENG;sYENISEI AENG;sORKHON EP;zaOP;zaIC;zaEC;sYENISEI EC;sORKHON AQ
sYENISEI AQ;sORKHON IQ;sYENISEI IQ;sORKHON OQ;sYENISEI OQ;sORKHON AR;sYENISEI AR;sORKHON AER;zbS
zbES;zbSH;sYENISEI ASH;sORKHON ESH;sYENISEI ESH;sORKHON AT;sYENISEI AT;sORKHON AET;sYENISEI AET
sORKHON OT;zaBASH;38eHUNGARIAN CAPITAL LETTER A;zfA;zeEB;zeAMB;zeEC;zfNC;zfCS;zfD;zeAND;zeE
zeCLOSE E;zeEE;zfF;zfG;zgY;zfH;zeI;zfI;zeEJ;zfK;zeAK;zeUNK;zeEL;zgY;zfM;zfN;zgY;zeO;zfO
zeNIKOLSBURG OE;zeRUDIMENTA OE;zeOEE;zeEP;zfMP;zfR;zeSHORT ER;zeES;zgZ;zfT;zfNT;zfTY;zfCH;zeU;zfU
zeNIKOLSBURG UE;zeRUDIMENTA UE;zeEV;zfZ;zgS;zfNT-SHAPED SIGN;zeUS;EoSMALL LETTER A;zdA;zcEB;zcAMB
zcEC;zdNC;zdCS;zdD;zcAND;zcE;zcCLOSE E;zcEE;zdF;zdG;zeY;zdH;zcI;zdI;zcEJ;zdK;zcAK;zcUNK;zcEL;zeY
zdM;zdN;zeY;zcO;zdO;zcNIKOLSBURG OE;zcRUDIMENTA OE;zcOEE;zcEP;zdMP;zdR;zcSHORT ER;zcES;zeZ;zdT;zdNT
zdTY;zdCH;zcU;zdU;zcNIKOLSBURG UE;zcRUDIMENTA UE;zcEV;zdZ;zeS;zdNT-SHAPED SIGN;zcUS;8oNUMBER ONE
vFIVE;vTEN;vFIFTY;vONE HUNDRED;zaTHOUSAND;aHANIFI ROHINGYA LETTER A;xBA;xPA;xTA;yTA;xJA;xCA;xHA
xKHA;xFA;xDA;yDA;xRA;yRA;xZA;xSA;yHA;xKA;xGA;xLA;xMA;xNA;xWA;xKINNA WA;xYA;xKINNA YA;xNGA;yYA;xVA
qVOWEL A;wI;wU;wE;wO;qMARK SAKIN;vNA KHONNA;qSIGN HARBAHAY;vTAHALA;xNA;xSSI;9qDIGIT ZERO;wONE;wTWO
xHREE;wFOUR;xIVE;wSIX;xEVEN;wEIGHT;wNINE;127aRUMI DIGIT ONE;lTWO;mHREE;lFOUR;mIVE;lSIX;mEVEN;lEIGHT
lNINE;fNUMBER TEN;nWENTY;nHIRTY;mFORTY;nIFTY;mSIXTY;nEVENTY;mEIGHTY;mNINETY;mONE HUNDRED
mTWO HUNDRED;nHREE HUNDRED;mFOUR HUNDRED;nIVE HUNDRED;mSIX HUNDRED;nEVEN HUNDRED;mEIGHT HUNDRED
mNINE HUNDRED;fFRACTION ONE HALF;sQUARTER;sTHIRD;oTWO THIRDS;2aYEZIDI LETTER ELIF;oBE;oPE;pHE;oTHE
oSE;oCIM;pHIM;qHIM;oHHA;oXA;oDAL;oZAL;oRA;pHA;oZA;oJA;oSIN;pHIN;pAD;oDAD;oTA;oZE;oEYN;oXHEYN;oFA
oVA;q ALTERNATE FORM;oQAF;oKAF;pHAF;oGAF;oLAM;oMIM;oNUN;oUM;oWAW;oOW;oEW;oHAY;oYOT;oET
2hCOMBINING HAMZA MARK;rMADDA MARK;hHYPHENATION MARK;3hLETTER LAM WITH DOT ABOVE
oYOT WITH CIRCUMFLEX ABOVE;4FaOLD SOGDIAN LETTER ALEPH;tFINAL ALEPH;tBETH;tFINAL BETH;tGIMEL;tHE
tFINAL HE;tWAW;tZAYIN;tHETH;tYODH;tKAPH;tLAMEDH;tMEM;tNUN;tFINAL NUN;zd WITH VERTICAL TAIL;tSAMEKH
tAYIN;uLTERNATE AYIN;tPE;tSADHE;tFINAL SADHE;zf WITH VERTICAL TAIL;tRESH-AYIN-DALETH;tSHIN;tTAW
tFINAL TAW;zd WITH VERTICAL TAIL;mNUMBER ONE;tTWO;uHREE;tFOUR;uIVE;tTEN;uWENTY;uHIRTY;tONE HUNDRED
mFRACTION ONE HALF;mLIGATURE AYIN-DALETH;9aSOGDIAN LETTER ALEPH;pBETH;pGIMEL;pHE;pWAW;pZAYIN;pHETH
pYODH;pKAPH;pLAMEDH;pMEM;pNUN;pSAMEKH;pAYIN;pPE;pSADHE;pRESH-AYIN;pSHIN;pTAW;pFETH;pLESH
iINDEPENDENT SHIN;iCOMBINING DOT BELOW;sTWO DOTS BELOW;sDOT ABOVE;sTWO DOTS ABOVE;sCURVE ABOVE
yBELOW;sHOOK ABOVE;xBELOW;sLONG HOOK BELOW;sRESH BELOW;sSTROKE BELOW;iNUMBER ONE;pTEN;qWENTY
pONE HUNDRED;iPUNCTUATION TWO VERTICAL BARS;zm WITH DOTS;uCIRCLE WITH DOT;uTWO CIRCLES WITH DOTS
uHALF CIRCLE WITH DOT;17aOLD UYGHUR LETTER ALEPH;sBETH;sGIMEL-HETH;sWAW;sZAYIN;sFINAL HETH;sYODH
sKAPH;sLAMEDH;sMEM;sNUN;sSAMEKH;sPE;sSADHE;sRESH;sSHIN;sTAW;sLESH;lCOMBINING DOT ABOVE;zaBELOW
vTWO DOTS ABOVE;zfBELOW;lPUNCTUATION BAR;xTWO BARS;zcDOTS;xFOUR DOTS;27aCHORASMIAN LETTER ALEPH
sSMALL ALEPH;sBETH;sGIMEL;sDALETH;sHE;sWAW;sCURLED WAW;sZAYIN;sHETH;sYODH;sKAPH;sLAMEDH;sMEM;sNUN
sSAMEKH;sAYIN;sPE;sRESH;sSHIN;sTAW;lNUMBER ONE;sTWO;tHREE;sFOUR;sTEN;tWENTY;sONE HUNDRED
15aELYMAIC LETTER ALEPH;pBETH;pGIMEL;pDALETH;pHE;pWAW;pZAYIN;pHETH;pTETH;pYODH;pKAPH;pLAMEDH;pMEM
pNUN;pSAMEKH;pAYIN;pPE;pSADHE;pQOPH;pRESH;pSHIN;pTAW;jIGATURE ZAYIN-YODH;AaBRAHMI SIGN CANDRABINDU
mANUSVARA;mVISARGA;mJIHVAMULIYA;mUPADHMANIYA;hLETTER A;pA;oI;pI;oU;pU;oVOCALIC R;xR;wL;xL;oE;oAI;oO
oAU;oKA;pHA;oGA;pHA;oNGA;oCA;pHA;oJA;pHA;oNYA;oTTA;qHA;oDDA;qHA;oNNA;oTA;pHA;oDA;pHA;oNA;oPA;pHA
oBA;pHA;oMA;oYA;oRA;oLA;oVA;oSHA;pSA;pA;oHA;oLLA;oOLD TAMIL LLLA;yRRA;yNNNA;hVOWEL SIGN AA
sBHATTIPROLU AA;sI;tI;sU;tU;sVOCALIC R;zcR;zbL;zcL;sE;sAI;sO;sAU;iIRAMA;hDANDA;iOUBLE DANDA
hPUNCTUATION DOT;vUBLE DOT;tLINE;tCRESCENT BAR;tLOTUS;5hNUMBER ONE;oTWO;pHREE;oFOUR;pIVE;oSIX;pEVEN
oEIGHT;oNINE;oTEN;pWENTY;pHIRTY;oFORTY;pIFTY;oSIXTY;pEVENTY;oEIGHTY;oNINETY;oONE HUNDRED;sTHOUSAND
hDIGIT ZERO;nONE;nTWO;oHREE;nFOUR;oIVE;nSIX;oEVEN;nEIGHT;nNINE;hSIGN OLD TAMIL VIRAMA
hLETTER OLD TAMIL SHORT E;zfO;hVOWEL SIGN OLD TAMIL SHORT E;zjO;hLETTER OLD TAMIL LLA
AhNUMBER JOINER;aKAITHI SIGN CANDRABINDU;mANUSVARA;mVISARGA;hLETTER A;pA;oI;pI;oU;pU;oE;oAI;oO;oAU
oKA;pHA;oGA;pHA;oNGA;oCA;pHA;oJA;pHA;oNYA;oTTA;qHA;oDDA;qDHA;qHA;oRHA;oNNA;oTA;pHA;oDA;pHA;oNA;oPA
pHA;oBA;pHA;oMA;oYA;oRA;oLA;oVA;oSHA;pSA;pA;oHA;hVOWEL SIGN AA;sI;tI;sU;tU;sE;sAI;sO;sAU
hSIGN VIRAMA;mNUKTA;hABBREVIATION SIGN;hENUMERATION SIGN;hNUMBER SIGN;hSECTION MARK
hDOUBLE SECTION MARK;iANDA;iOUBLE DANDA;hVOWEL SIGN VOCALIC R;BhNUMBER SIGN ABOVE
3aSORA SOMPENG LETTER SAH;uTAH;uBAH;uCAH;uDAH;uGAH;uMAH;uNGAH;uLAH;uNAH;uVAH;uPAH;uYAH;uRAH;uHAH
uKAH;uJAH;uNYAH;uAH;uEEH;uIH;uUH;uOH;uEH;uMAE;8nDIGIT ZERO;tONE;tTWO;uHREE;tFOUR;uIVE;tSIX;uEVEN
tEIGHT;tNINE;7aCHAKMA SIGN CANDRABINDU;mANUSVARA;mVISARGA;hLETTER AA;oI;oU;oE;oKAA;pHAA;oGAA;pHAA
oNGAA;oCAA;pHAA;oJAA;pHAA;oNYAA;oTTAA;qHAA;oDDAA;qHAA;oNNAA;oTAA;pHAA;oDAA;pHAA;oNAA;oPAA;pHAA;oBAA
pHAA;oMAA;oYYAA;pAA;oRAA;oLAA;oWAA;oSAA;oHAA;hVOWEL SIGN A;sI;tI;sU;tU;sE;sAI;sO;sAU;sOI;hO MARK
hAU MARK;hVIRAMA;hMAAYYAA;2hDIGIT ZERO;nONE;nTWO;oHREE;nFOUR;oIVE;nSIX;oEVEN;nEIGHT;nNINE
hSECTION MARK;hDANDA;iOUBLE DANDA;hQUESTION MARK;hLETTER LHAA;hVOWEL SIGN AA;sEI;hLETTER VAA
9aMAHAJANI LETTER A;qI;qU;qE;qO;qKA;rHA;qGA;rHA;qCA;rHA;qJA;rHA;qNYA;qTTA;sHA;qDDA;sHA;qNNA;qTA;rHA
qDA;rHA;qNA;qPA;rHA;qBA;rHA;qMA;qRA;qLA;qVA;qSA;qHA;qRRA;jSIGN NUKTA;jABBREVIATION SIGN
jSECTION MARK;jLIGATURE SHRI;AaSHARADA SIGN CANDRABINDU;nANUSVARA;nVISARGA;iLETTER A;qA;pI;qI;pU;qU
pVOCALIC R;yR;xL;yL;pE;pAI;pO;pAU;pKA;qHA;pGA;qHA;pNGA;pCA;qHA;pJA;qHA;pNYA;pTTA;rHA;pDDA;rHA;pNNA
pTA;qHA;pDA;qHA;pNA;pPA;qHA;pBA;qHA;pMA;pYA;pRA;pLA;qLA;pVA;pSHA;qSA;qA;pHA;iVOWEL SIGN AA;tI;uI;tU
uU;tVOCALIC R;zdR;zcL;zdL;tE;tAI;tO;tAU;iSIGN VIRAMA;nAVAGRAHA;nJIHVAMULIYA;nUPADHMANIYA;iOM;iDANDA
jOUBLE DANDA;iABBREVIATION SIGN;iSEPARATOR;jANDHI MARK;jIGN NUKTA;iVOWEL MODIFIER MARK
iEXTRA SHORT VOWEL MARK;iSUTRA MARK;iVOWEL SIGN PRISHTHAMATRA E;iSIGN INVERTED CANDRABINDU
iDIGIT ZERO;oONE;oTWO;pHREE;oFOUR;pIVE;oSIX;pEVEN;oEIGHT;oNINE;iEKAM;iSIGN SIDDHAM;iHEADSTROKE
iCONTINUATION SIGN;iSECTION MARK-1;v2;2bINHALA ARCHAIC DIGIT ONE;wTWO;xHREE;wFOUR;xIVE;wSIX;xEVEN
wEIGHT;wNINE;qNUMBER TEN;yWENTY;yHIRTY;xFORTY;yIFTY;xSIXTY;yEVENTY;xEIGHTY;xNINETY;xONE HUNDRED
zcTHOUSAND;CaKHOJKI LETTER A;pA;oI;oU;oE;oAI;oO;oAU;oKA;pHA;oGA;pGA;pHA;oNGA;oCA;pHA;oJA;pJA;2oNYA
oTTA;qHA;oDDA;qHA;oNNA;oTA;pHA;oDA;pDDA;pHA;oNA;oPA;pHA;oBA;pBA;pHA;oMA;oYA;oRA;oLA;oVA;oSA;oHA
oLLA;hVOWEL SIGN AA;sI;tI;sU;sE;sAI;sO;sAU;hSIGN ANUSVARA;mVIRAMA;mNUKTA;mSHADDA;hDANDA
iOUBLE DANDA;hWORD SEPARATOR;hSECTION MARK;hDOUBLE SECTION MARK;hABBREVIATION SIGN;hSIGN SUKUN
42aMULTANI LETTER A;pI;pU;pE;pKA;qHA;pGA;2qHA;2pCA;qHA;pJA;qJA;2pNYA;pTTA;rHA;pDDA;rDA;rHA;pNNA;pTA
qHA;pDA;qHA;pNA;pPA;qHA;pBA;2qHA;pMA;pYA;pRA;pLA;pVA;pSA;pHA;pRRA;qHA;iSECTION MARK
7aKHUDAWADI LETTER A;sA;rI;sI;rU;sU;rE;rAI;rO;rAU;rKA;sHA;rGA;sGA;sHA;rNGA;rCA;sHA;rJA;sJA;sHA;rNYA
rTTA;tHA;rDDA;tDA;rRRA;rDDHA;rNNA;rTA;sHA;rDA;sHA;rNA;rPA;sHA;rBA;sBA;sHA;rMA;rYA;rRA;rLA;rVA;rSHA
sA;rHA;kSIGN ANUSVARA;kVOWEL SIGN AA;vI;wI;vU;wU;vE;vAI;vO;vAU;kSIGN NUKTA;pVIRAMA;6kDIGIT ZERO
qONE;qTWO;rHREE;qFOUR;rIVE;qSIX;rEVEN;qEIGHT;qNINE;7aGRANTHA SIGN COMBINING ANUSVARA ABOVE
oANDRABINDU;nANUSVARA;nVISARGA;2iLETTER A;qA;pI;qI;pU;qU;pVOCALIC R;xL;3pEE;pAI;3pOO;pAU;pKA;qHA
pGA;qHA;pNGA;pCA;qHA;pJA;qHA;pNYA;pTTA;rHA;pDDA;rHA;pNNA;pTA;qHA;pDA;qHA;pNA;2pPA;qHA;pBA;qHA;pMA
pYA;pRA;2pLA;qLA;2pVA;pSHA;qSA;qA;pHA;2aCOMBINING BINDU BELOW;aGRANTHA SIGN NUKTA;nAVAGRAHA
iVOWEL SIGN AA;tI;uI;tU;uU;tVOCALIC R;zdR;3tEE;tAI;3tOO;tAU;iSIGN VIRAMA;3iOM;7iAU LENGTH MARK
6iSIGN PLUTA;iLETTER VEDIC ANUSVARA;vDOUBLE ANUSVARA;qOCALIC RR;xLL;iVOWEL SIGN VOCALIC L;zdL
3aCOMBINING GRANTHA DIGIT ZERO;yONE;yTWO;zaHREE;yFOUR;zaIVE;ySIX;4sLETTER A;zaKA;zaNA;zaVI;zaPA
8CaNEWA LETTER A;nA;mI;nI;mU;nU;mVOCALIC R;vR;uL;vL;mE;mAI;mO;mAU;mKA;nHA;mGA;nHA;mNGA;oHA;mCA;nHA
mJA;nHA;mNYA;oHA;mTTA;oHA;mDDA;oHA;mNNA;mTA;nHA;mDA;nHA;mNA;nHA;mPA;nHA;mBA;nHA;mMA;nHA;mYA;mRA;nHA
mLA;nHA;mWA;mSHA;nSA;nA;mHA;fVOWEL SIGN AA;qI;rI;qU;rU;qVOCALIC R;zaR;yL;zaL;qE;qAI;qO;qAU
fSIGN VIRAMA;kCANDRABINDU;kANUSVARA;kVISARGA;kNUKTA;kAVAGRAHA;kFINAL ANUSVARA;fOM;fSIDDHI;fDANDA
gOUBLE DANDA;fCOMMA;fGAP FILLER;fABBREVIATION SIGN;fDIGIT ZERO;lONE;lTWO;mHREE;lFOUR;mIVE;lSIX
mEVEN;lEIGHT;lNINE;gOUBLE COMMA;fPLACEHOLDER MARK;2fINSERTION SIGN;fSANDHI MARK
fLETTER VEDIC ANUSVARA;fSIGN JIHVAMULIYA;kUPADHMANIYA;1FaTIRHUTA ANJI;iLETTER A;qA;pI;qI;pU;qU
pVOCALIC R;yR;xL;yL;pE;pAI;pO;pAU;pKA;qHA;pGA;qHA;pNGA;pCA;qHA;pJA;qHA;pNYA;pTTA;rHA;pDDA;rHA;pNNA
pTA;qHA;pDA;qHA;pNA;pPA;qHA;pBA;qHA;pMA;pYA;pRA;pLA;pVA;pSHA;qSA;qA;pHA;iVOWEL SIGN AA;tI;uI;tU;uU
tVOCALIC R;zdR;zcL;zdL;tE;tSHORT E;tAI;tO;tSHORT O;tAU;iSIGN CANDRABINDU;nANUSVARA;nVISARGA;pRAMA
nNUKTA;nAVAGRAHA;iGVANG;iABBREVIATION SIGN;iOM;9iDIGIT ZERO;oONE;oTWO;pHREE;oFOUR;pIVE;oSIX;pEVEN
oEIGHT;oNINE;A7aSIDDHAM LETTER A;qA;pI;qI;pU;qU;pVOCALIC R;yR;xL;yL;pE;pAI;pO;pAU;pKA;qHA;pGA;qHA
pNGA;pCA;qHA;pJA;qHA;pNYA;pTTA;rHA;pDDA;rHA;pNNA;pTA;qHA;pDA;qHA;pNA;pPA;qHA;pBA;qHA;pMA;pYA;pRA
pLA;pVA;pSHA;qSA;qA;pHA;iVOWEL SIGN AA;tI;uI;tU;uU;tVOCALIC R;zdR;3tE;tAI;tO;tAU;iSIGN CANDRABINDU
nANUSVARA;nVISARGA;pRAMA;nNUKTA;nSIDDHAM;iDANDA;jOUBLE DANDA;iSEPARATOR DOT;sBAR;iREPETITION MARK-1
y2;y3;iEND OF TEXT MARK;iSECTION MARK WITH TRIDENT AND U-SHAPED ORNAMENTS;znDOTTED CRESCENTS
zbRAYS AND DOTTED CRESCENTS;zrDOUBLE CRESCENTS;zrTRIPLE CRESCENTS;vDOUBLE RING;zh WITH RAYS
vWITH DOUBLE CRESCENTS;zbTRIPLE CRESCENTS;zbQUADRUPLE CRESCENTS;zbSEPTUPLE CRESCENTS
zbCIRCLES AND RAYS;znTWO ENCLOSURES;znFOUR ENCLOSURES;iLETTER THREE-CIRCLE ALTERNATE I
qWO-CIRCLE ALTERNATE I;zmI;pALTERNATE U;iVOWEL SIGN ALTERNATE U;zfU;23aMODI LETTER A;nA;mI;nI;mU;nU
mVOCALIC R;vR;uL;vL;mE;mAI;mO;mAU;mKA;nHA;mGA;nHA;mNGA;mCA;nHA;mJA;nHA;mNYA;mTTA;oHA;mDDA;oHA;mNNA
mTA;nHA;mDA;nHA;mNA;mPA;nHA;mBA;nHA;mMA;mYA;mRA;mLA;mVA;mSHA;nSA;nA;mHA;mLLA;fVOWEL SIGN AA;qI;rI
qU;rU;qVOCALIC R;zaR;yL;zaL;qE;qAI;qO;qAU;fSIGN ANUSVARA;kVISARGA;mRAMA;kARDHACANDRA;fDANDA
gOUBLE DANDA;fABBREVIATION SIGN;fSIGN HUVA;CfDIGIT ZERO;lONE;lTWO;mHREE;lFOUR;mIVE;lSIX;mEVEN
lEIGHT;lNINE;7cNGOLIAN BIRGA WITH ORNAMENT;kROTATED BIRGA;kDOUBLE BIRGA WITH ORNAMENT
kTRIPLE BIRGA WITH ORNAMENT;kBIRGA WITH DOUBLE ORNAMENT;kROTATED BIRGA WITH ORNAMENT
zeDOUBLE ORNAMENT;kINVERTED BIRGA;y WITH DOUBLE ORNAMENT;kSWIRL BIRGA;v WITH ORNAMENT
zcDOUBLE ORNAMENT;kTURNED SWIRL BIRGA WITH DOUBLE ORNAMENT;14aTAKRI LETTER A;oA;nI;oI;nU;oU;nE;nAI
nO;nAU;nKA;oHA;nGA;oHA;nNGA;nCA;oHA;nJA;oHA;nNYA;nTTA;pHA;nDDA;pHA;nNNA;nTA;oHA;nDA;oHA;nNA;nPA;oHA
nBA;oHA;nMA;nYA;nRA;nLA;nVA;nSHA;oA;nHA;nRRA;gSIGN ANUSVARA;lVISARGA;gVOWEL SIGN AA;rI;sI;rU;sU;rE
rAI;rO;rAU;gSIGN VIRAMA;lNUKTA;gLETTER ARCHAIC KHA;gABBREVIATION SIGN;7gDIGIT ZERO;mONE;mTWO;nHREE
mFOUR;nIVE;mSIX;nEVEN;mEIGHT;mNINE;37aAHOM LETTER KA;nHA;mNGA;nA;mTA;mALTERNATE TA;mPA;nHA;mBA;mMA
mJA;mCHA;mTHA;mRA;mLA;mSA;mNYA;mHA;mA;mDA;nHA;mGA;mALTERNATE GA;mGHA;mBHA;mJHA;mALTERNATE BA
3fCONSONANT SIGN MEDIAL LA;zcRA;zcLIGATING RA;fVOWEL SIGN A;rA;qI;rI;qU;rU;qE;qAW;qO;qAI;rM
fSIGN KILLER;5fDIGIT ZERO;lONE;lTWO;mHREE;lFOUR;mIVE;lSIX;mEVEN;lEIGHT;lNINE;fNUMBER TEN;nWENTY
fSIGN SMALL SECTION;lECTION;kRULAI;gYMBOL VI;fLETTER CA;mTTA;oHA;mDDA;oHA;mNNA;mLLA
BAaDOGRA LETTER A;oA;nI;oI;nU;oU;nE;nAI;nO;nAU;nKA;oHA;nGA;oHA;nNGA;nCA;oHA;nJA;oHA;nNYA;nTTA;pHA
nDDA;pHA;nNNA;nTA;oHA;nDA;oHA;nNA;nPA;oHA;nBA;oHA;nMA;nYA;nRA;nLA;nVA;nSHA;oSA;oA;nHA;nRRA
gVOWEL SIGN AA;rI;sI;rU;sU;rVOCALIC R;zbR;rE;rAI;rO;rAU;gSIGN ANUSVARA;lVISARGA;nRAMA;lNUKTA
gABBREVIATION SIGN;65aWARANG CITI CAPITAL LETTER NGAA;zcA;zcWI;zcYU;zdA;zdO;zcII;zcUU;zcE;zcO;zcANG
zcGA;zcKO;zcENY;zcYUJ;zcUC;zcENN;zcODD;zcTTE;zcNUNG;zcDA;zcAT;zdM;zcBU;zcPU;zcHIYO;zdOLO;zeRR;zdAR
zcSSUU;zdII;zcVIYO;mSMALL LETTER NGAA;zaA;zaWI;zaYU;zbA;zbO;zaII;zaUU;zaE;zaO;zaANG;zaGA;zaKO;zaENY
zaYUJ;zaUC;zaENN;zaODD;zaTTE;zaNUNG;zaDA;zaAT;zbM;zaBU;zaPU;zaHIYO;zbOLO;zcRR;zbAR;zaSSUU;zbII
zaVIYO;mDIGIT ZERO;sONE;sTWO;tHREE;sFOUR;tIVE;sSIX;tEVEN;sEIGHT;sNINE;mNUMBER TEN;uWENTY;uHIRTY
tFORTY;uIFTY;tSIXTY;uEVENTY;tEIGHTY;tNINETY;DmOM;aDIVES AKURU LETTER A;uA;tI;uI;tU;uU;tE;3tO;3tKA
uHA;tGA;uHA;tNGA;tCA;uHA;tJA;2tNYA;tTTA;2tDDA;vHA;tNNA;tTA;uHA;tDA;uHA;tNA;tPA;uHA;tBA;uHA;tMA;tYA
uYA;tRA;tLA;tVA;tSHA;uSA;uA;tHA;tLLA;tZA;mVOWEL SIGN AA;xI;yI;xU;yU;xE;2xAI;xO;3mSIGN ANUSVARA
rCANDRABINDU;rHALANTA;mVIRAMA;mPREFIXED NASAL SIGN;mMEDIAL YA;mINITIAL RA;mMEDIAL RA;mSIGN NUKTA
mDOUBLE DANDA;mGAP FILLER;mEND OF TEXT MARK;AmDIGIT ZERO;sONE;sTWO;tHREE;sFOUR;tIVE;sSIX;tEVEN
sEIGHT;sNINE;47aNANDINAGARI LETTER A;uA;tI;uI;tU;uU;tVOCALIC R;zdR;3tE;tAI;tO;tAU;tKA;uHA;tGA;uHA
tNGA;tCA;uHA;tJA;uHA;tNYA;tTTA;vHA;tDDA;vHA;tNNA;tTA;uHA;tDA;uHA;tNA;tPA;uHA;tBA;uHA;tMA;tYA;tRA
tLA;tVA;tSHA;uSA;uA;tHA;tLLA;tRRA;mVOWEL SIGN AA;xI;yI;xU;yU;xVOCALIC R;zhR;3xE;xAI;xO;xAU
mSIGN ANUSVARA;rVISARGA;tRAMA;rAVAGRAHA;rSIDDHAM;mHEADSTROKE;mVOWEL SIGN PRISHTHAMATRA E
1CaZANABAZAR SQUARE LETTER A;rVOWEL SIGN I;zdUE;ze;zdE;zdOE;ze;zdAI;zeU;zdREVERSED I;xLENGTH MARK
rLETTER KA;zaHA;yGA;zaHA;yNGA;yCA;zaHA;yJA;yNYA;yTTA;zbHA;yDDA;zbHA;yNNA;yTA;zaHA;yDA;zaHA;yNA;yPA
zaHA;yBA;zaHA;yMA;yTSA;zbHA;yDZA;zbHA;yZHA;zaA;y-A;yYA;yRA;yLA;yVA;ySHA;zaSA;zaA;yHA;yKSSA
rFINAL CONSONANT MARK;rSIGN VIRAMA;wCANDRABINDU;zi WITH ORNAMENT;zd WITH ORNAMENT;wANUSVARA
wVISARGA;rCLUSTER-INITIAL LETTER RA;zaFINAL LETTER YA;znRA;znLA;znVA;rINITIAL HEAD MARK
rCLOSING HEAD MARK;rMARK TSHEG;wSHAD;wDOUBLE SHAD;wLONG TSHEG;rINITIAL DOUBLE-LINED HEAD MARK
rCLOSING DOUBLE-LINED HEAD MARK;rSUBJOINER;9aSOYOMBO LETTER A;iVOWEL SIGN I;tUE;u;tE;tO;uE;tAI;uU
tVOCALIC R;zcL;oLENGTH MARK;iLETTER KA;qHA;pGA;qHA;pNGA;pCA;qHA;pJA;qHA;pNYA;pTTA;rHA;pDDA;rHA;pNNA
pTA;qHA;pDA;qHA;pNA;pPA;qHA;pBA;qHA;pMA;pTSA;rHA;pDZA;pZHA;qA;p-A;pYA;pRA;pLA;pVA;pSHA;qSA;qA;pHA
pKSSA;iSIGN JIHVAMULIYA;nUPADHMANIYA;iCLUSTER-INITIAL LETTER RA;zgLA;zgSHA;zhA
iFINAL CONSONANT SIGN G;zeK;zeNG;zeD;zeN;zeB;zeM;zeR;zeL;zeSH;zf;ze-A;iSIGN ANUSVARA;nVISARGA
iGEMINATION MARK;iSUBJOINER;iMARK TSHEG;nSHAD;nDOUBLE SHAD;nPLUTA
iHEAD MARK WITH MOON AND SUN AND TRIPLE FLAME;zpFLAME;zk;iTERMINAL MARK-1;w2
EaCANADIAN SYLLABICS NATTILIK HI;zfI;zeO;zfO;zeA;zfA;zdSHRI;zhI;zgO;zhO;zgA;zhA;tSPE;vI;vO;vA
aPAU CIN HAU LETTER PA;tKA;tLA;tMA;tDA;tZA;tVA;tNGA;tHA;tGA;tKHA;tSA;tBA;tCA;tTA;uHA;tNA;tPHA;tRA
tFA;tCHA;tA;tE;tI;tO;tU;uA;tIA;tFINAL P;zaK;zaT;zaM;zaN;zaL;zaW;zaNG;zaY;mRISING TONE LONG;x
mSANDHI GLOTTAL STOP;mRISING TONE LONG FINAL;yFINAL;mSANDHI GLOTTAL STOP FINAL;tTONE LONG;x
x LONG FINAL;yFINAL;mMID-LEVEL TONE;mGLOTTAL STOP VARIANT;mMID-LEVEL TONE LONG FINAL;zcFINAL
mLOW-FALLING TONE LONG;zd;mGLOTTAL STOP;mLOW-FALLING TONE LONG FINAL;zeFINAL;mGLOTTAL STOP FINAL
108aBHAIKSUKI LETTER A;sA;rI;sI;rU;sU;rVOCALIC R;zbR;zaL;2rE;rAI;rO;rAU;rKA;sHA;rGA;sHA;rNGA;rCA
sHA;rJA;sHA;rNYA;rTTA;tHA;rDDA;tHA;rNNA;rTA;sHA;rDA;sHA;rNA;rPA;sHA;rBA;sHA;rMA;rYA;rRA;rLA;rVA
rSHA;sSA;sA;rHA;kVOWEL SIGN AA;vI;wI;vU;wU;vVOCALIC R;zfR;zeL;2vE;vAI;vO;vAU;kSIGN CANDRABINDU
pANUSVARA;pVISARGA;rRAMA;pAVAGRAHA;kDANDA;lOUBLE DANDA;kWORD SEPARATOR;kGAP FILLER-1;v2
BkDIGIT ZERO;qONE;qTWO;rHREE;qFOUR;rIVE;qSIX;rEVEN;qEIGHT;qNINE;kNUMBER ONE;rTWO;sHREE;rFOUR;sIVE
rSIX;sEVEN;rEIGHT;rNINE;rTEN;sWENTY;sHIRTY;rFORTY;sIFTY;rSIXTY;sEVENTY;rEIGHTY;rNINETY
kHUNDREDS UNIT MARK;4aMARCHEN HEAD MARK;iMARK SHAD;iLETTER KA;qHA;pGA;pNGA;pCA;qHA;pJA;pNYA;pTA;qHA
pDA;pNA;pPA;qHA;pBA;pMA;pTSA;rHA;pDZA;pWA;pZHA;qA;p-A;pYA;pRA;pLA;pSHA;qA;pHA;pA
3iSUBJOINED LETTER KA;zbHA;zaGA;zaNGA;zaCA;zbHA;zaJA;zaNYA;zaTA;zbHA;zaDA;zaNA;zaPA;zbHA;zaBA;zaMA
zaTSA;zcHA;zaDZA;zaWA;zaZHA;zbA;2zaYA;zaRA;zaLA;zaSHA;zbA;zaHA;zaA;iVOWEL SIGN AA;tI;tU;tE;tO
iSIGN ANUSVARA;nCANDRABINDU;4AcSARAM GONDI LETTER A;wA;vI;wI;vU;wU;vE;2vAI;vO;2vAU;vKA;wHA;vGA;wHA
vNGA;vCA;wHA;vJA;wHA;vNYA;vTTA;xHA;vDDA;xHA;vNNA;vTA;wHA;vDA;wHA;vNA;vPA;wHA;vBA;wHA;vMA;vYA;vRA
vLA;vVA;vSHA;wSA;wA;vHA;vLLA;vKSSA;vJNYA;vTRA;oVOWEL SIGN AA;zaI;zbI;zaU;zbU;zaVOCALIC R;4zaE;2zaAI
zaO;2zaAU;oSIGN ANUSVARA;tVISARGA;tNUKTA;tCANDRA;tHALANTA;oVIRAMA;oREPHA;pA-KARA;9oDIGIT ZERO;uONE
uTWO;vHREE;uFOUR;vIVE;uSIX;vEVEN;uEIGHT;uNINE;7aGUNJALA GONDI LETTER A;wA;vI;wI;vU;wU;2vEE;vAI;2vOO
vAU;vYA;vVA;vBA;wHA;vMA;vKA;wHA;vTA;wHA;vLA;vGA;wHA;vDA;wHA;vNA;vCA;wHA;vTTA;xHA;vLLA;vJA;wHA;vDDA
xHA;vNGA;vPA;wHA;vHA;vRA;vSA;oVOWEL SIGN AA;zaI;zbI;zaU;zbU;2zaEE;zaAI;2zaOO;zaAU;oSIGN ANUSVARA
tVISARGA;oVIRAMA;oOM;8oDIGIT ZERO;uONE;uTWO;vHREE;uFOUR;vIVE;uSIX;vEVEN;uEIGHT;uNINE
137aMAKASAR LETTER KA;pGA;pNGA;pPA;pBA;pMA;pTA;pDA;pNA;pCA;pJA;pNYA;pYA;pRA;pLA;pVA;pSA;pA;iANGKA
iVOWEL SIGN I;tU;tE;tO;iPASSIMBANG;iEND OF SECTION;B8aLISU LETTER YHA
10aTAMIL FRACTION ONE THREE-HUNDRED-AND-TWENTIETH;tONE-HUNDRED-AND-SIXTIETH;tEIGHTIETH
tSIXTY-FOURTH;tFORTIETH;tTHIRTY-SECOND;pTHREE EIGHTIETHS;vSIXTY-FOURTHS;pONE TWENTIETH;tSIXTEENTH-1
ze2;tTENTH;tEIGHTH;pTHREE TWENTIETHS;vSIXTEENTHS;pONE FIFTH;tQUARTER;tHALF-1;y2;pTHREE QUARTERS
pDOWNSCALING FACTOR KIIZH;gSIGN NEL;lCEVITU;lAAZHAAKKU;lUZHAKKU;lMUUVUZHAKKU;lKURUNI;lPATHAKKU
lMUKKURUNI;lKAACU;lPANAM;mON;lVARAAKAN;lPAARAM;lKUZHI;lVELI;gWET CULTIVATION SIGN
gDRY CULTIVATION SIGN;gLAND SIGN;gSALT PAN SIGN;gTRADITIONAL CREDIT SIGN;sNUMBER SIGN;gCURRENT SIGN
gAND ODD SIGN;gSPENT SIGN;gTOTAL SIGN;gIN POSSESSION SIGN;gSTARTING FROM SIGN;hIGN MUTHALIYA
lVAKAIYARAA;EgPUNCTUATION END OF TEXT;aCUNEIFORM SIGN A;q TIMES A;xBAD;xGAN2 TENU;xHA;xIGI
xLAGAR GUNU;xMUSH;xSAG;q2;qB;r TIMES ASH2;yDUN3 GUNU;yGAL;zbN2 TENU;yHA;yIGI GUNU;zaMIN;yLAGAB
ySHESH;yU PLUS U PLUS U;sGUNU;r2;s TIMES BALAG;zaGAN2 TENU;zaME PLUS EN;zaSHA3;zaTAK4;qD;qK
r TIMES ERIN2;ySHITA PLUS GISH;qL;r TIMES AL;yDIM2;yGISH;yHA;yKAD3;zaI;ySHE;yUSH;rAN;rEPH;qMAR
t TIMES SHE;qN;r OVER AN;sTHREE TIMES;sPLUS NAGA OPPOSING AN PLUS NAGA;zdSQUARED;rSHE;qPIN;qRAD
t TIMES KUR;rKAB;qSAL2;rH;s ZIDA TENU;tKABA TENU;tOVER ASH TUG2 OVER TUG2 TUG2 OVER TUG2 PAP
zdOVER ASH;zl CROSSING ASH OVER ASH OVER ASH;s2;sGAB;pBA;rD;rG3;rHAR2;rL;s OVER BAL;sAG;rR;sA2;qI
r TIMES A;yGAR;yIGI GUNU;qU;r OVER BU AB;zbUN;sCROSSING BU;rLUG;u OVER BULUG;rR;s2;pDA;rG
s KISIM5 TIMES A PLUS MASH;ziMAR;zhBALAG;ziI;zhGA;zj PLUS MASH;ziI;zjR2;ziUD;zhHA;zhIR;zj PLUS LU
zhKAK;zhLA;ziU;zj PLUS MASH2;zjM;zhNE;zhPAP PLUS PAP;zhSI;zhTAK4;zhU2 PLUS GIR2;ziSH;rM;rR;sA3;t4
qI;rB;rM;s TIMES SHE;s2;rN;s KASKAL U GUNU DISH;rSH;qU;r OVER DU;sGUNU;sSHESHIG;rB;s TIMES ESH2;s2
rG;sUD;rH;rN;s3;t GUNU;y GUNU;s4;rR2;pE;q TIMES PAP;rOVER E NUN OVER NUN;q2
r TIMES A PLUS HA PLUS DA;yGAR;yMI;ySAL;zaHE;yU;qDIN;qGIR;qL;qN;r TIMES GAN2;zd TENU;yME
sCROSSING EN;sOPPOSING EN;sSQUARED;qREN;rIN2;qSH2;qZEN;t TIMES A;zc PLUS LAL;zl TIMES LAL;zcN;zbBAD
zbDUN3 GUNU;zk GUNU;zbHA;zd GUNU;zbIGI GUNU;zbKASKAL;zh SQUARED;zcU3;zbLA;zdL TIMES LAL;zcI;zcU
zbU2;zcD;pGA;r GUNU;r2;s TIMES A PLUS DA PLUS HA;zhHA;zhIGI;zbB2 TENU PLUS TAB;zbN;zbSH
zd2 PLUS GAL;zaBAD;zcR PLUS RA;zbUR;zd PLUS RA;zaDA;zbI;zcM TIMES SHE;zbUB;zaEL;zc PLUS LA;zbN
zc TIMES GAN2 TENU;zaGAN2 TENU;zcR;zbI;zc4;zd PLUS A;zcR2 PLUS SU;zaHA PLUS LU PLUS ESH2;zcL
zd PLUS LA;zbI PLUS LI;zbUB2;zaIGI GUNU;zbSH PLUS HU PLUS ASH;zaKAK;zcSKAL;zbID;zd PLUS LAL
zbU3 PLUS AN;zaLA;zaME PLUS EN;zbI;zaNUN;zd OVER NUN;zaPA;zaSAL;zcR;zbHE;zd PLUS TUR;zcID;zbUM
zaTAK4;zaU;zbD;zc PLUS DU;tOVER GA2;rBA;t CROSSING GABA;rD;s OVER GAD GAR OVER GAR;rL
s GAD OVER GAD GAR OVER GAR;sAM;rM;rN;s2;t TENU;uOVER GAN2;uCROSSING GAN2;rR;s3;rSHAN;qESHTIN
w TIMES KUR;qI;r TIMES E;yU;sCROSSING GI;r4;s OVER GI4;tCROSSING GI4;rDIM;rR2;t GUNU;s3
t TIMES A PLUS IGI;zbGAN2 TENU;zbIGI;zbLU PLUS IGI;zbPA;rSAL;sH;t CROSSING GISH;uTIMES BAD;zbTAK4
vENU;qU;r CROSSING GU;r2;s TIMES KAK;zd TIMES IGI GUNU;zaNUN;zaSAL PLUS TUG2;tGUNU;rD
s TIMES A PLUS KUR;zaKUR;tOVER GUD LUGAL;rL;rM;s TIMES SHE;rR;s7;sUN;tSH;pHA;r TENU;sGUNU;rL;qI
r TIMES ASH;zc2;yBAD;yDISH;yGAD;yKIN;yNUN;ySHE;yU;qU;rB2;t TIMES AN;zbHAL;zbKASKAL;zbLISH;zbUD;rL2
pI;q A;qB;qDIM;t OVER IDIM BUR;zfSQUARED;qG;rI;s DIB;tRI;tOVER IGI SHIR OVER SHIR UD OVER UD;tGUNU
qL;r TIMES GAN2 TENU;r2;qM;r TIMES TAK4;sCROSSING IM;sOPPOSING IM;sSQUARED;rIN;qN;qR;qSH;pKA
r TIMES A;zaD;zb PLUS KU3;zaSH2;yBAD;zbLAG;zbR;zaI;yERIN2;zaSH2;yGA;zbL;zbN2 TENU;zbR
zc PLUS SHA3 PLUS A;zaI;zbR2;zbSH PLUS SAR;zeCROSSING GISH;zaU;zbR7;yIGI;zaM;yKAK;zaI;zbD;yLI;zaU
yME;zb PLUS DU;zhGI;zhTE;zaI;zb PLUS NUNUZ;yNE;zaUN;yPI;yRU;ySA;zbR;zaHA;zbE;zbID;zbU;zaIG;zaUHUR
yTAR;yU;za2;zaD;zaMUM TIMES PA;zaSH;yZI;r2;s CROSSING KA2;rB;rD2;s3;s4;s5;t OVER KAD5;rK
s TIMES IGI GUNU;rL;s TIMES BAD;tCROSSING KAL;rM2;s4;rSKAL;v LAGAB TIMES U OVER LAGAB TIMES U
wOVER KASKAL LAGAB TIMES U OVER LAGAB TIMES U;qESH2;qI;r TIMES BAD;yU;zaD;rD;rN;rSAL;sH;sIM5
v OVER KISIM5;qU;r OVER HI TIMES ASH2 KU OVER HI TIMES ASH2;r3;r4;s VARIANT FORM;r7;rL;s GUNU;rN;rR
s OPPOSING KUR;rSHU2;qWU318;pLA;rGAB;u TIMES A;zd PLUS DA PLUS HA;zjGAR;zjLAL;zdL;zdN
zdSH ZIDA TENU;zcBAD;zdI;zcDAR;zcEN;zcGA;zeR;zdUD;zf PLUS GUD;zcHA;zeL;zdI TIMES NUN;zcIGI GUNU;zdM
ze PLUS HA;zkLU;zcKI;zeN;zdU3;zeL;zf PLUS HI PLUS A;zcLAGAB;zdISH;zdU;zeL;zcME;ze PLUS EN;zdUSH
zcNE;zcSHE PLUS SUM;zeITA PLUS GISH PLUS ERIN2;zsTENU;zeU2;zg PLUS SHU2;zdUM;zcTAG;zeK4
zdE PLUS A PLUS SU PLUS NA;zcU;zd PLUS A;zjU PLUS U;zd2 PLUS ASH;zdD;zdSH;vSQUARED;tR;u TIMES SHE
zf PLUS SUM;vGUNU;za OVER LAGAR GUNU SHE;rHSHU;rL;s TIMES LAL;rM;s TIMES KUR;zd PLUS RU;qI;rL;rMMU2
rSH;qU;r TIMES BAD;r2;s TIMES AL;zaBAD;zaESH2;ze TENU;zaGAN2 TENU;zaHI TIMES BAD;zaIM;zaKAD2;zd3
ze PLUS ASH;zbI;zaLA PLUS ASH;zcGAB;zaME PLUS EN;zaNE;zbU;zaSI PLUS ASH;zcK2 PLUS BU;zaTUG2;uENU
tCROSSING LU2;tOPPOSING LU2;tSQUARED;uHESHIG;r3;rGAL;u OVER LUGAL;wPPOSING LUGAL;vSHESHIG;rH;rL;rM
s OVER LUM;zc GAR OVER GAR;pMA;r TIMES TAK4;sGUNU;r2;rH;rR;rSH;t2;qE;rS;qI;rN;qU;r OVER MU;rG
s GUNU;rNSUB;rRGU2;rSH;t TIMES A;zbKUR;zbZA;uOVER MUSH;ze TIMES A PLUS NA;uCROSSING MUSH;t3
u TIMES A;zd PLUS DI;zcDI;vGUNU;pNA;r2;rGA;t INVERTED;uTIMES SHU TENU;uOPPOSING NAGA;tR;rM NUTILLU
s;s2;qE;r TIMES A;yUD;sSHESHIG;qI;r TIMES E;r2;rM;s TIMES GAN2 TENU;zcR PLUS GAN2 TENU;rNDA2
v TIMES AN;zeSH;zg PLUS ASH;zdGUD;zdME PLUS GAN2 TENU;zdNE;zeUN;zdSHE;zg PLUS A AN;znSH;zp PLUS ASH
zdU2 PLUS ASH;zeSH;rSAG;qU;r11;rN;s LAGAR TIMES GAR;zgMASH;zgSAL;zj OVER NUN LAGAR TIMES SAL;zgUSH
tTENU;tOVER NUN;tCROSSING NUN;zg LAGAR OVER LAGAR;sUZ;u AB2 TIMES ASHGAB;zgBI;zgDUG;zgGUD
zgIGI GUNU;zgKAD3;zgLA;zgNE;zgSILA3;zgU2;vKISIM5 TIMES BI;zl U;pPA;rD;rN;rP;qESH2;qI;r TIMES A;zaB
yBI;zaU;yE;yI;zaB;yU;za2;sCROSSING PI;rRIG;u TIMES KAL;zcUD;zcZA;vOPPOSING PIRIG;pRA;rB;qI;qU;pSA
rG NUTILLU;s;s TIMES A;zaDU;zcB;zaHA;zaKAK;zbUR;zaLUM;zaMI;zaNUN;zaSAL;zbHID;zaTAB;zaU2;zbB;zbM;zbR
zbSH;tOVER SAG;tGUNU;rL;s LAGAB TIMES ASH2;rNGA2;rR;qHA;s3;t TIMES A;zbBAD;zbGISH;zbNE;zbSHU2;zbTUR
zbU;zc PLUS A;s6;sB6;sR2;rE;s HU;tOVER SHE GAD OVER GAD GAR OVER GAR;zdTAB OVER TAB GAR OVER GAR
sG9;sN;sSH;u2;uLAM;rID;t TIMES A;zbIM;sM;t TIMES A;zbBAL;zcULUG;zbDIN;zbGAR;zbIGI;ze GUNU;zbKUSHU2
zbLUL;zbMUG;zbSAL;sNIG;sR;pNU11 TENU;0pSHIR TENU;pNU11 OVER NU11 BUR OVER BUR
0pSHIR OVER SHIR BUR OVER BUR;sTA;rU;s OVER INVERTED SHU;s2;sBUR;qI;r GUNU;rG;s4;t OVER SIG4 SHU2
rK2;rLA3;qU;r OVER SU;rD;s2;rHUR;rM;sASH;rR;s9;pTA;r ASTERISK;sTIMES HI;yMI;sGUNU;rB
s OVER TAB NI OVER NI DISH OVER DISH;tSQUARED;rG;s TIMES BI;zaGUD;zaSHE;zcU;zaTUG2;zaUD;rK4;rR;qE
r GUNU;qI;r TENU;rL;rR;s TIMES TAK4;tOVER TIR;zc GAD OVER GAD GAR OVER GAR;qU;rG2;rK;rM;rR
s OVER TUR ZA OVER ZA;pU;q GUD;rU U;rOVER U PA OVER PA GAR OVER GAR;ySUR OVER SUR
yU REVERSED OVER U REVERSED;q2;qB;qD;r KUSHU2;sTIMES BAD;yMI;yU PLUS U PLUS U;zo GUNU;sGUNU
sSHESHIG;za TIMES BAD;rUG;qM;r TIMES LAGAB;yME PLUS DA;ySHA3;yU;rBIN;rUM;t TIMES KASKAL;zbPA;qN
r GUNU;qR;r CROSSING UR;sSHESHIG;r2;s TIMES A PLUS HA;zhNA;zbL;zaHA;zaNUN;zaU2;zc PLUS ASH;ziBI;r4
rI;s3;rU;s TIMES A;zbSHGAB;zaBAR;zaDUN;zaGA;zcL;zcN2 TENU;zcR;zbU;zaHA;zaIGI;zbM;zbSH;zaKI;zaLUM
zaMIN;zaPA;zaSHE;zbIG4;zaTU;zaU PLUS GUD;zbD;zbRUDA;sDA;u TIMES U;qSH;s TIMES A;zaKU;zcR;zaTAK4;sX
s2;sUMX;qTUKI;qZ3;s TIMES KASKAL;rU;pZA;r TENU;sSQUARED TIMES KUR;rG;rMX;qE2;qI;r OVER ZI;r3;rB
s KABA TENU;rG;rZ2;qU;r5;s TIMES A;rBUR;rM;pKAP ELAMITE;pAB TIMES NUN;r2 TIMES A;qMAR TIMES KUG
pDAG KISIM5 TIMES U2 PLUS MASH;s3;qISH PLUS SHU;qUB TIMES SHE;pEZEN TIMES GUD;zbSHE
pGA2 TIMES AN PLUS KAK PLUS A;zbSH2;qE22;qIG;pHUSH;pKA TIMES ANSHE;zaSH3;yGISH;zaUD;yHI TIMES ASH2
yLUM;yPA;ySHUL;yTU;yUR2;pLAGAB TIMES GI;qU2 SHESHIG TIMES BAD;tTIMES ESH2 PLUS LAL;zaSHU;pMESH
qUSH3 TIMES ZA;pNA4;qIN;s9;sDA2 TIMES BAL;zdGI;qU11 ROTATED NINETY DEGREES;pPESH2 ASTERISK;qIR2
pSAG TIMES IGI GUNU;pTI2;pUM TIMES ME;q U;67kNUMERIC SIGN TWO ASH;yHREE ASH;xFOUR ASH;yIVE ASH
xSIX ASH;yEVEN ASH;xEIGHT ASH;xNINE ASH;xTHREE DISH;xFOUR DISH;yIVE DISH;xSIX DISH;yEVEN DISH
xEIGHT DISH;xNINE DISH;xFOUR U;yIVE U;xSIX U;yEVEN U;xEIGHT U;xNINE U;xONE GESH2;xTWO GESH2
yHREE GESH2;xFOUR GESH2;yIVE GESH2;xSIX GESH2;yEVEN GESH2;xEIGHT GESH2;xNINE GESH2;xONE GESHU
xTWO GESHU;yHREE GESHU;xFOUR GESHU;yIVE GESHU;xTWO SHAR2;yHREE SHAR2;zj VARIANT FORM;xFOUR SHAR2
yIVE SHAR2;xSIX SHAR2;yEVEN SHAR2;xEIGHT SHAR2;xNINE SHAR2;xONE SHARU;xTWO SHARU;yHREE SHARU
zj VARIANT FORM;xFOUR SHARU;yIVE SHARU;xSHAR2 TIMES GAL PLUS DISH;ztMIN;xONE BURU;xTWO BURU
yHREE BURU;zi VARIANT FORM;xFOUR BURU;yIVE BURU;xTHREE VARIANT FORM ESH16;zu21
xFOUR VARIANT FORM LIMMU;zv4;zv A;zwB;xSIX VARIANT FORM ASH9;yEVEN VARIANT FORM IMIN3;zv A;zwB
xEIGHT VARIANT FORM USSU;zv3;xNINE VARIANT FORM ILIMMU;zw3;zw4;zw A;xTWO ASH TENU;yHREE ASH TENU
xFOUR ASH TENU;yIVE ASH TENU;xSIX ASH TENU;xONE BAN2;xTWO BAN2;yHREE BAN2;xFOUR BAN2
zh VARIANT FORM;yIVE BAN2;zh VARIANT FORM;xNIGIDAMIN;zeESH;xONE ESHE3;xTWO ESHE3;xONE THIRD DISH
xTWO THIRDS DISH;xFIVE SIXTHS DISH;xONE THIRD VARIANT FORM A;xTWO THIRDS VARIANT FORM A
xONE EIGHTH ASH;zcQUARTER ASH;yLD ASSYRIAN ONE SIXTH;zpQUARTER;yNE QUARTER GUR;zcHALF GUR
xELAMITE ONE THIRD;zgTWO THIRDS;zgFORTY;zhIFTY;xFOUR U VARIANT FORM;yIVE U VARIANT FORM
xSIX U VARIANT FORM;yEVEN U VARIANT FORM;xEIGHT U VARIANT FORM;xNINE U VARIANT FORM
2kPUNCTUATION SIGN OLD ASSYRIAN WORD DIVIDER;zcVERTICAL COLON;zcDIAGONAL COLON;zlTRICOLON
zlQUADCOLON;CkSIGN AB TIMES NUN TENU;ySHU2;qD TIMES ESH2;pBAD TIMES DISH TENU;rHAR2 TIMES AB2;zdNI
zdZA;qU OVER BU TIMES NA2;pDA TIMES TAK4;rG TIMES KUR;qIM TIMES IGI;zaU U U;s2 TIMES UD
qUG TIMES ANSHE;zbSH;zd AT LEFT;zaDIN;zbUN;zaERIN2;zaGA;zbI;zcR2 GUNU;zcSH;zaHA;zbI;zaIGI GUNU
zaKASKAL;zbUR;zcSHU2;zg PLUS KASKAL;zaLAK-020;zcM;zd TIMES KUR;zbUH PLUS GISH;zaMASH;zbES;zbI;zaNI
zaPI;zaSHE;zbI GUNU;pE2 TIMES KUR;yPAP;qRIN2 X;qSH2 CROSSING ESH2;qZEN SHESHIG TIMES ASH;zjHI
zjIGI GUNU;zjLA;zlL;zjME;zlS;zjSU;uTIMES SU;pGA2 TIMES BAHAR2;zaDIM GUNU;zbUG TIMES IGI GUNU
zkKASKAL;zaEREN;zaGA;zcR PLUS DI;zjNE;zaHA PLUS A;zaKUSHU2 PLUS KASKAL;zaLAM;zd TIMES KUR;zbUH
zaMUSH;zaNE;zc PLUS E2;ziGI;zaSHIM;zaZIZ2;rBA ROTATED NINETY DEGREES;qESHTIN TIMES U
qISH TIMES GISH CROSSING GISH;qU2 TIMES IGI GUNU;rD PLUS GISH TIMES TAK4;pHA TENU GUNU
qI TIMES ASH OVER HI TIMES ASH;pKA TIMES BU;yKA;yU U U;zaR;pLAGAB TIMES ZU OVER ZU;rK-003;u21;v5
u30;u50;v1;u62;u79 OVER LAK-079 GUNU;u80;v1 OVER LAK-081;u92;t130;u42;t210;v9;u20;v5;v8;u38;u65;v6
t343;v7;v8;u83;v4;u90;t441;v9;w TIMES GU;zeIGI;zePAP PLUS LU3;znPAP PLUS LU3;zeU2 PLUS BA;u50;v7
u70;u83;u90;v2;v3;v5;t550;t608;u17;w TIMES ASH;zeBAD;zeDUN3 GUNU GUNU;zeKU3;zeLA;zeTAR;zfE;zeU2;zfD
zfRUDA;u36;u48;w TIMES DUB;zeGA;zeIGI;zh GUNU;zeNI;zePAP PLUS PAP PLUS LU3;zeSHESH PLUS KI;zeUD
zfRUDA;t724;u49;qU2 GUNU TIMES ASH;tTIMES DISH;zaHAL;zaPAP;zd PLUS PAP PLUS LU3;zaTAK4;pMI PLUS ZA7
qUSH OVER MUSH TIMES GA;zlKAK;pNINDA2 TIMES DIM GUNU;zdGISH;zeUL;zdHI;zdKESH2;zdLAK-050;zdMASH
zdPAP PLUS PAP;zdU;ze PLUS U;zeRUDA;pSAG GUNU TIMES HA;tTIMES EN;zaSHE AT LEFT;zaTAK4;qHA6 TENU
rE OVER SHE;tPLUS HUB2;yNAM2;ySAR;rU2 PLUS DUG TIMES NI;zaE2 TIMES AN;qI TIMES TAK4;pTAK4 PLUS SAG
qUM TIMES GAN2 TENU;zaTHREE DISH;pUR2 INVERTED;tTIMES UD;rU TIMES DARA3;zaLAK-668;zbU3;pZA7
qU OVER ZU PLUS SAR;r5 TIMES THREE DISH TENU;A4DbYPRO-MINOAN SIGN CM001;w2;w4;w5;w6;w7;w8;w9;v10;w1
w2;xB;w3;w5;w7;w9;v21;w3;w4;w5;w6;w7;w8;w9;v30;w3;w4;w5;w6;w7;w8;w9;v40;w1;w4;w6;w7;w9;v50;w1;w2;w3
w4;w5;w6;w8;w9;v60;w1;w2;w3;w4;w6;w7;w8;w9;v70;w1;w2;w3;w4;w5;xB;w6;w8;w9;v80;w1;w2;w3;w4;w5;w6;w7
w8;w9;v90;w1;w2;w4;w5;w6;w7;w8;w9;u100;w1;w2;w3;w4;w5;w7;w8;w9;v10;w2;w4;u301;w2
EaEGYPTIAN HIEROGLYPH A001;x2;x3;x4;x5;yA;x6;yA;yB;x7;x8;x9;w10;x1;x2;x3;x4;yA;x5;x6;x7;yA;x8;x9
w20;x1;x2;x3;x4;x5;x6;x7;x8;x9;w30;x1;x2;yA;x3;x4;x5;x6;x7;x8;x9;w40;yA;x1;x2;yA;x3;yA;x4;x5;yA;x6
x7;x8;x9;w50;x1;x2;x3;x4;x5;x6;x7;x8;x9;w60;x1;x2;x3;x4;x5;x6;x7;x8;x9;w70;uB001;x2;x3;x4;x5;yA;x6
x7;x8;x9;uC001;x2;yA;yB;yC;x3;x4;x5;x6;x7;x8;x9;w10;yA;x1;x2;x3;x4;x5;x6;x7;x8;x9;w20;x1;x2;x3;x4
uD001;x2;x3;x4;x5;x6;x7;x8;yA;x9;w10;x1;x2;x3;x4;x5;x6;x7;x8;x9;w20;x1;x2;x3;x4;x5;x6;x7;yA;x8;x9
w30;x1;yA;x2;x3;x4;yA;x5;x6;x7;x8;x9;w40;x1;x2;x3;x4;x5;x6;yA;x7;x8;yA;x9;w50;yA;yB;yC;yD;yE;yF;yG
yH;yI;x1;x2;yA;x3;x4;yA;x5;x6;x7;x8;x9;w60;x1;x2;x3;x4;x5;x6;x7;yA;yB;yC;yD;yE;yF;yG;yH;uE001;x2;x3
x4;x5;x6;x7;x8;yA;x9;yA;w10;x1;x2;x3;x4;x5;x6;yA;x7;yA;x8;x9;w20;yA;x1;x2;x3;x4;x5;x6;x7;x8;yA;x9
w30;x1;x2;x3;x4;yA;x6;x7;x8;uF001;yA;x2;x3;x4;x5;x6;x7;x8;x9;w10;x1;x2;x3;yA;x4;x5;x6;x7;x8;x9;w20
x1;yA;x2;x3;x4;x5;x6;x7;x8;x9;w30;x1;yA;x2;x3;x4;x5;x6;x7;yA;x8;yA;x9;w40;x1;x2;x3;x4;x5;yA;x6;yA
x7;yA;x8;x9;w50;x1;yA;yB;yC;x2;x3;uG001;x2;x3;x4;x5;x6;yA;x7;yA;yB;x8;x9;w10;x1;yA;x2;x3;x4;x5;x6
x7;x8;x9;w20;yA;x1;x2;x3;x4;x5;x6;yA;x7;x8;x9;w30;x1;x2;x3;x4;x5;x6;yA;x7;yA;x8;x9;w40;x1;x2;x3;yA
x4;x5;yA;x6;x7;x8;x9;w50;x1;x2;x3;x4;uH001;x2;x3;x4;x5;x6;yA;x7;x8;uI001;x2;x3;x4;x5;yA;x6;x7;x8;x9
yA;w10;yA;x1;yA;x2;x3;x4;x5;uK001;x2;x3;x4;x5;x6;x7;x8;uL001;x2;yA;x3;x4;x5;x6;yA;x7;x8;uM001;yA;yB
x2;x3;yA;x4;x5;x6;x7;x8;x9;w10;yA;x1;x2;yA;yB;yC;yD;yE;yF;yG;yH;x3;x4;x5;yA;x6;yA;x7;yA;x8;x9;w20
x1;x2;yA;x3;x4;yA;x5;x6;x7;x8;yA;x9;w30;x1;yA;x2;x3;yA;yB;x4;x5;x6;x7;x8;x9;w40;yA;x1;x2;x3;x4
uN001;x2;x3;x4;x5;x6;x7;x8;x9;w10;x1;x2;x3;x4;x5;x6;x7;x8;yA;yB;x9;w20;x1;x2;x3;x4;x5;yA;x6;x7;x8
x9;w30;x1;x2;x3;yA;x4;yA;x5;yA;x6;x7;yA;x8;x9;w40;x1;x2;vL001;y2;y3;y4;y5;zaA;y6;y7;y8;y9;x10;y1;y2
y3;y4;y5;y6;y7;zaA;y8;y9;x20;vU001;y2;y3;y4;y5;y6;y7;y8;y9;x10;zaA;y1;zaA;y2;y3;y4;y5;y6;y7;y8;zaA
y9;x20;y1;y2;zaA;uO001;yA;x2;x3;x4;x5;yA;x6;yA;yB;yC;yD;yE;yF;x7;x8;x9;w10;yA;yB;yC;x1;x2;x3;x4;x5
x6;x7;x8;x9;yA;w20;yA;x1;x2;x3;x4;yA;x5;yA;x6;x7;x8;x9;yA;w30;yA;x1;x2;x3;yA;x4;x5;x6;yA;yB;yC;yD
x7;x8;x9;w40;x1;x2;x3;x4;x5;x6;x7;x8;x9;w50;yA;yB;x1;uP001;yA;x2;x3;yA;x4;x5;x6;x7;x8;x9;w10;x1
uQ001;x2;x3;x4;x5;x6;x7;uR001;x2;yA;x3;yA;yB;x4;x5;x6;x7;x8;x9;w10;yA;x1;x2;x3;x4;x5;x6;yA;x7;x8;x9
w20;x1;x2;x3;x4;x5;x6;x7;x8;x9;uS001;x2;yA;x3;x4;x5;x6;yA;x7;x8;x9;w10;x1;x2;x3;x4;yA;yB;x5;x6;x7
yA;x8;x9;w20;x1;x2;x3;x4;x5;x6;yA;yB;x7;x8;x9;w30;x1;x2;x3;x4;x5;yA;x6;x7;x8;x9;w40;x1;x2;x3;x4;x5
x6;uT001;x2;x3;yA;x4;x5;x6;x7;yA;x8;yA;x9;yA;w10;x1;yA;x2;x3;x4;x5;x6;yA;x7;x8;x9;w20;x1;x2;x3;x4
x5;x6;x7;x8;x9;w30;x1;x2;yA;x3;yA;x4;x5;x6;uU001;x2;x3;x4;x5;x6;yA;yB;x7;x8;x9;w10;x1;x2;x3;x4;x5
x6;x7;x8;x9;w20;x1;x2;x3;yA;x4;x5;x6;x7;x8;x9;yA;w30;x1;x2;yA;x3;x4;x5;x6;x7;x8;x9;w40;x1;x2;uV001
yA;yB;yC;yD;yE;yF;yG;yH;yI;x2;yA;x3;x4;x5;x6;x7;yA;yB;x8;x9;w10;x1;yA;yB;yC;x2;yA;yB;x3;x4;x5;x6;x7
x8;x9;w20;yA;yB;yC;yD;yE;yF;yG;yH;yI;yJ;yK;yL;x1;x2;x3;yA;x4;x5;x6;x7;x8;yA;x9;yA;w30;yA;x1;yA;x2
x3;yA;x4;x5;x6;x7;yA;x8;x9;w40;yA;uW001;x2;x3;yA;x4;x5;x6;x7;x8;x9;yA;w10;yA;x1;x2;x3;x4;yA;x5;x6
x7;yA;x8;yA;x9;w20;x1;x2;x3;x4;yA;x5;uX001;x2;x3;x4;yA;yB;x5;x6;yA;x7;x8;yA;uY001;yA;x2;x3;x4;x5;x6
x7;x8;uZ001;x2;yA;yB;yC;yD;x3;yA;yB;x4;yA;x5;yA;x6;x7;x8;x9;w10;x1;x2;x3;x4;x5;yA;yB;yC;yD;yE;yF;yG
yH;yI;x6;yA;yB;yC;yD;yE;yF;yG;yH;uAA001;y2;y3;y4;y5;y6;y7;zaA;zaB;y8;y9;x10;y1;y2;y3;y4;y5;y6;y7;y8
y9;x20;y1;y2;y3;y4;y5;y6;y7;y8;y9;x30;y1;y2;2uVERTICAL JOINER;uHORIZONTAL JOINER
uINSERT AT TOP START;zfBOTTOM START;zfTOP END;zfBOTTOM END;uOVERLAY MIDDLE;uBEGIN SEGMENT
uEND SEGMENT;FC8aANATOLIAN HIEROGLYPH A001;y2;y3;y4;y5;y6;y7;y8;y9;x10;zaA;y1;y2;y3;y4;y5;y6;y7;y8
y9;x20;y1;y2;y3;y4;y5;y6;zaA;y7;y8;y9;x30;y1;y2;y3;y4;y5;y6;y7;y8;y9;zaA;x40;y1;zaA;y2;y3;y4;y5;zaA
y6;zaA;zaB;y7;y8;y9;x50;y1;y2;y3;y4;y5;y6;y7;y8;y9;x60;y1;y2;y3;y4;y5;y6;zaA;zaB;zaC;y7;y8;y9;x70
y1;y2;y3;y4;y5;y6;y7;y8;y9;x80;y1;y2;y3;y4;y5;y6;y7;y8;y9;x90;y1;y2;y3;y4;y5;y6;y7;zaA;y8;zaA;y9
w100;zaA;y1;zaA;y2;zaA;y3;y4;zaA;zaB;zaC;y5;zaA;zaB;y6;y7;zaA;zaB;zaC;y8;y9;x10;zaA;zaB;y1;y2;y3;y4
y5;zaA;y6;y7;y8;y9;x20;y1;y2;y3;y4;y5;zaA;y6;y7;y8;y9;x30;y1;y2;y3;y4;y5;zaA;y6;y7;y8;y9;x40;y1;y2
y3;y4;y5;y6;y7;y8;y9;x50;y1;y2;y3;y4;y5;y6;y7;y8;y9;x60;y1;y2;y3;y4;y5;y6;y7;y8;y9;x70;y1;y2;y3;y4
y5;y6;y7;y8;y9;x80;y1;y2;y3;y4;y5;y6;y7;y8;y9;x90;y1;y2;y3;y4;y5;y6;y7;y8;y9;w200;y1;y2;zaA;zaB;y3
y4;y5;y6;y7;zaA;y8;y9;zaA;x10;y1;y2;y3;y4;y5;zaA;y6;zaA;y7;y8;y9;x20;y1;y2;y3;y4;y5;y6;y7;zaA;y8;y9
x30;y1;y2;y3;y4;y5;y6;y7;y8;y9;x40;y1;y2;y3;y4;y5;y6;y7;y8;y9;x50;y1;y2;y3;y4;y5;y6;y7;y8;y9;x60;y1
y2;y3;y4;y5;y6;y7;zaA;y8;y9;x70;y1;y2;y3;y4;y5;y6;y7;y8;y9;x80;y1;y2;y3;y4;y5;y6;y7;y8;y9;zaA;x90
y1;y2;y3;y4;zaA;y5;y6;y7;y8;y9;zaA;w300;y1;y2;y3;y4;y5;y6;y7;y8;y9;zaA;x10;y1;y2;y3;y4;y5;y6;y7;y8
y9;x20;y1;y2;y3;y4;y5;y6;y7;y8;y9;zaA;x30;y1;y2A;zaB;zaC;y3;y4;y5;y6;zaA;zaB;zaC;y7;y8;y9;x40;y1;y2
y3;y4;y5;y6;y7;y8;y9;x50;y1;y2;y3;y4;y5;y6;y7;y8;y9;zaA;x60;y1;y2;y3;y4;zaA;y5;y6;y7;y8;zaA;y9;x70
y1;zaA;y2;y3;y4;y5;y6;y7;y8;y9;x80;y1;zaA;y2;y3 RA OR RI;zaA;y4;y5;y6;zaA;y7;y8;y9;x90;y1;y2
y3 EIGHT;y4;y5;y6;y7;y8;y9;w400;y1;y2;y3;y4;y5;y6;y7;y8;y9;x10 BEGIN LOGOGRAM MARK
zaA END LOGOGRAM MARK;y1;y2;y3;y4;y5;y6;y7;y8;y9;x20;y1;y2;y3;y4;y5;y6;y7;y8;y9;x30;y1;y2;y3;y4;y5
y6;y7;y8;y9;x40;y1;y2;y3;y4;y5;y6;y7;y8;y9;x50;zaA;y1;y2;y3;y4;y5;y6;y7;zaA;y8;y9;x60;y1;y2;y3;y4
y5;y6;y7;y8;y9;x70;y1;y2;y3;y4;y5;y6;y7;y8;y9;x80;y1;y2;y3;y4;y5;y6;y7;y8;y9;x90;y1;y2;y3;y4;y5;y6
y7;w501;y2;y3;y4;y5;y6;y7;y8;y9;x10;y1;y2;y3;y4;y5;y6;y7;y8;y9;x20;y1;y2;y3;y4;y5;y6;y7;y8;y9;x30
21BAaBAMUM LETTER PHASE-A NGKUE MFON;vGBIEE FON;vPON MFON PIPAEMGBIEE;zlBA;vNAA MFON;vSHUENSHUET
vTITA MFON;vNZA MFON;vSHINDA PA NJI;vPON PA NJI PIPAEMGBIEE;znBA;vMAEMBGBIEE;vTU MAEMBA;vNGANGU
vMAEMVEUX;xNSUAE;wVEUAENGAM;vSEUNYAM;vNTOQPEN;vKEUKEUTNDA;vNKINDI;vSUU;vNGKUENZEUM;vLAPAQ;wET KUT
vNTAP MFAA;vMAEKEUP;vPASHAE;vGHEUAERAE;vPAMSHAE;vMON NGGEUAET;vNZUN MEUT;vU YUQ NAE;vGHEUAEGHEUAE
vNTAP NTAA;vSISA;vMGBASA;wEUNJOMNDEUQ;wOOMPUQ;vKAFA;vPA LEERAEWA;vNDA LEERAEWA;vPET;vMAEMKPEN;vNIKA
vPUP;vTUAEP;vLUAEP;vSONJAM;vTEUTEUWEN;vMAENYI;vKET;vNDAANGGEUAET;vKUOQ;vMOOMEUT;vSHUM;vLOMMAE;vFIRI
vROM;vKPOQ;vSOQ;vMAP PIEET;vSHIRAE;vNTAP;vSHOQ NSHUT YUM;vNYIT MONGKEUAEQ;vPAARAE;vNKAARAE;vUNKNOWN
vNGGEN;vMAESI;vNJAM;vMBANYI;vNYET;vTEUAEN;vSOT;vPAAM;vNSHIEE;vMAEM;vNYI;vKAQ;vNSHA;vVEE;vLU;vNEN
wAQ;vMBAQ;tB NSHUET;vTU MAEMGBIEE;vSIEE;wET TU;vLOM NTEUM;vMBA MAELEE;vKIEEM;vYEURAE;vMBAARAE;vKAM
vPEESHI;vYAFU LEERAEWA;vLAM NSHUT NYAM;vNTIEE SHEUOQ;wDU NJAA;vGHEUGHEUAEM;vPIT;vTU NSIEE
vSHET NJAQ;yUAEQTU;vMFON TEUAEQ;wBIT MBAAKET;vNYI NTEUM;vKEUPUQ;vGHEUGHEN;vKEUYEUX;vLAANAE;vPARUM
vVEUM;vNGKINDI MVOP;xGEU MBU;vWUAET;vSAKEUAE;vTAAM;vMEUQ;vNGGUOQ;zc LARGE;vMFIYAQ;vSUE;vMBEURI
wONTIEEN;vNYAEMAE;vPUNGAAM;vMEUT NGGEET;vFEUX;vMBUOQ;vFEE;vKEUAEM;vMA NJEUAENA;zbUQA;vLET;vNGGAAM
wSEN;vMA;vKIQ;vNGOM;tC NGKUE MAEMBA;wZA;vYUM;vWANGKUOQ;vNGGEN;wDEUAEREE;wGKAQ;vGHARAE;vMBEEKEET
vGBAYI;vNYIR MKPARAQ MEUN;wTU MBIT;vMBEUM;vPIRIEEN;vNDOMBU;vMBAA CABBAGE-TREE;vKEUSHEUAEP;vGHAP
vKEUKAQ;vYU MUOMAE;vNZEUM;vMBUE;vNSEUAEN;vMBIT;vYEUQ;vKPARAQ;wAA;vSEUX;vNDIDA;vTAASHAE;vNJUEQ
vTITA YUE;vSUAET;vNGGUAEN NYAM;vVEUX;vNANSANAQ;vMA KEUAERI;vNTAA;wGGUON;vLAP;vMBIRIEEN;wGBASAQ
vNTEUNGBA;vTEUTEUX;vNGGUM;vFUE;vNDEUT;wSA;xHAQ;vBUNG;vVEUAEPEN;vMBERAE;vRU;vNJAEM;vLAM;vTITUAEP
vNSUOT NGOM;wJEEEE;vKET;vNGGU;vMAESI;wBUAEM;vLU;vKUT;vNJAM;wGOM;vWUP;vNGGUEET;wSOM;wTEN
vKUOP NKAARAE;vNSUN;wDAM;vMA NSIEE;vYAA;vNDAP;vSHUEQ;wETFON;vMBI;wAEMBA;wBANYI;vKEUSEUX;vMBEUX
vKEUM;vMBAA PICKET;vYUWOQ;vNJEUX;vMIEE;wUAE;vSHIQ;vKEN LAW;zaFATIGUE;vNGAQ;wAQ;vLIQ;vPIN;wEN;vTET
tD MBUO;vWAP;vNJI;vMFON;vNJIEE;vLIEE;vNJEUT;wSHEE;wGGAAMAE;wYAM;vWUAEN;vNGKUN;vSHEE;vNGKAP
vKEUAETMEUN;vTEUT;vSHEUAE;vNJAP;vSUE;vKET;vYAEMMAE;vKUOM;vSAP;vMFEUT;vNDEUX;vMALEERI;wEUT;vSEUAEQ
vYEN;vNJEUAEM;vKEUOT MBUAE;vNGKEURI;vTU;vGHAA;vNGKYEE;vFEUFEUAET;vNDEE;vMGBOFUM;vLEUAEP;vNDON;vMONI
wGBEUN;vPUUT;vMGBIEE;wFO;vLUM;vNSIEEP;vMBAA;vKWAET;vNYET;vTEUAEN;vSOT;vYUWOQ;vKEUM;vRAEM;vTEEEE
vNGKEUAEQ;vMFEUAE;vNSIEET;vKEUP;vPIP;wEUTAE;vNYUE;vLET;vNGGAAM;vMFIEE;vNGGWAEN;vYUOM;vPAP;vYUOP
vNDAM;wTEUM;vSUAE;vKUN;vNGGEUX;xKIEE;vTUOT;vMEUN;vKUQ;vNSUM;vTEUN;vMAENJET;vNGGAP;vLEUM;vNGGUOM
wSHUT;wJUEQ;vGHEUAE;vKU;vREN OLD;vTAE;wOQ;vNYI;vRII;vLEEEE;vMEEEE;w;vSUU;vMU;vSHII;xEUX;vKYEE;vNU
vSHU;vNTEE;vPEE;vNI;vSHOQ;vPUQ;vMVOP;vLOQ;vREN MUCH;vTI;vNTUU;vMBAA SEVEN;vSAQ;vFAA;tE NDAP;vTOON
vMBEUM;vLAP;vVOM;vLOON;vPAA;vSOM;vRAQ;vNSHUOP;wDUN;vPUAE;vTAM;vNGKA;vKPEUX;vWUO;vSEE;vNGGEUAET
vPAAM;vTOO;vKUOP;vLOM;vNSHIEE;wGOP;vMAEM;vNGKEUX;xOQ;wSHUE;vRIMGBA;vNJEUX;vPEEM;vSAA;vNGGURAE;vMGBA
vGHEUX;vNGKEUAEM;wJAEMLI;vMAP;vLOOT;vNGGEEEE;wDIQ;vTAEN NTEUM;vSET;vPUM;vNDAA SOFTNESS
wGGUAESHAE NYAM;vYIEE;vGHEUN;vTUAE;vYEUAE;vPO;vTUMAE;vKEUAE;vSUAEN;vTEUAEQ;vVEUAE;vWEUX;vLAAM;vPU
vTAAQ;vGHAAMAE;vNGEUREUT;vSHEUAEQ;vMGBEN;wBEE;vNZAQ;wKOM;vGBET;vTUM;vKUET;vYAP;vNYI CLEAVER;vYIT
vMFEUQ;vNDIAQ;vPIEEQ;vYUEQ;vLEUAEM;vFUE;vGBEUX;vNGKUP;vKET;vMAE;vNGKAAMI;vGHET;vFA;vNTUM;vPEUT
vYEUM;vNGGEUAE;wYI BETWEEN;wZUQ;vPOON;vMIEE;vFUET;vNAE;vMUAE;vGHEUAE;vFU I;vMVI;vPUAQ;vNGKUM;vKUT
vPIET;vNTAP;vYEUAET;vNGGUP;vPA PEOPLE;vFU CALL;wOM;vNJEE;vA;vTOQ;vO;vI;vLAQ;vPA PLURAL;vTAA;xQ
vNDAA MY HOUSE;vSHIQ;vYEUX;vNGUAE;vYUAEN;wOQ SWIMMING;zaCOVER;wUQ;xN;vKEUX;vPEUX;vNJEE EPOCH;vPUE
vWUE;vFEE;vVEE;vLU;vMI;vREUX;wAE;vNGUAET;xA;vSHO;yQ;vFU REMEDY;vNA;vPI;vLOQ;vKO;vMEN;wA;xQ;vTEU;vKI
vMON;vTEN;vFAQ;vGHOM;tF KA;vU;vKU;vEE;vREE;vTAE;vNYI;vLA;vRII;xEE;vMEEEE;vTAA;vNDAA;wJAEM;vM;vSUU
wHII;wI;wEUX;vKYEE;wET;vNUAE;x;wJUAE;vYOQ;vSHU;vYA;vNSHA;vPEUX;vNTEE;vWUE;vPEE;vRU;vNI;vREUX;vKEN
vNGKWAEN;xGA;vSHO;vPUAE;vFOM;vWA;vLI;wOQ;vKO;vMBEN;vREN;vMA;wO;wBAA;vTET;vKPA;vSAMBA;vVUEQ
8aMRO LETTER TA;lNGI;lYO;lMIM;lBA;lDA;lA;lPHI;lKHAI;lHAO;lDAI;lCHU;lKEAAE;lOL;lMAEM;lNIN;lPA;lOO;m
lRO;lSHI;lTHEA;lEA;lWA;lE;lKO;lLAN;n;lHAI;lRI;lTEK;2eDIGIT ZERO;kONE;kTWO;lHREE;kFOUR;lIVE;kSIX
lEVEN;kEIGHT;kNINE;5fANDA;fOUBLE DANDA;aTANGSA LETTER OZ;pC;pQ;pX;oAZ;pC;pQ;pX;oVZ;pC;pQ;pX;oEZ;pC
pQ;pX;oIZ;pC;pQ;pX;oUZ;pC;pQ;pX;oAWZ;qC;qQ;qX;oUIZ;qC;qQ;qX;oFINAL NG;oLONG UEX;oSHORT UEZ;uAWX
oUEC;qZ;qQ;qX;pIUZ;rC;rQ;rX;oMZ;pC;pQ;pX;oKA;pHA;oGA;oNGA;oSA;oYA;oWA;oPA;oNYA;oPHA;oBA;oMA;oNA;oHA
oLA;oHTA;oTA;oDA;oRA;oNHA;oSHA;oCA;oTSA;oGHA;oHTTA;oTHA;oXA;oFA;oDHA;oCHA;oZA;2hDIGIT ZERO;nONE
nTWO;oHREE;nFOUR;oIVE;nSIX;oEVEN;nEIGHT;nNINE;7aBASSA VAH LETTER ENNI;rKA;rSE;rFA;rMBE;rYIE;rGAH
rDHII;rKPAH;rJO;rHWAH;rWA;rZO;rGBU;rDO;rCE;rUWU;rTO;rBA;rVU;rYEIN;rPA;rWADDA;rA;rO;sO;rU;rEE;s;rI
3kCOMBINING HIGH TONE;uLOW TONE;uMID TONE;uLOW-MID TONE;uHIGH-LOW TONE;kFULL STOP
BaPAHAWH HMONG VOWEL KEEB;wV;uIB;vV;uAUB;wV;uUB;vV;uEB;vV;uAIB;wV;uOOB;wV;uAWB;wV;uUAB;wV;uOB;vV
uIAB;wV;uAB;vV;uWB;vV;uAAB;wV;nCONSONANT VAU;xNTSAU;xLAU;xHAU;xNLAU;xRAU;xNKAU;xQHAU;xYAU;xHLAU
xMAU;xCHAU;xNCHAU;xHNAU;xPLHAU;xNTHAU;yAU;xAU;xXAU;xCAU;nMARK CIM TUB;wSO;wKES;xHAV;wSUAM;wHOM
wTAUM;nSIGN VOS THOM;xSHAB CEEB;sCIM CHEEM;sVOS THIAB;wFEEM;sXYEEM NTXIV;yRHO;yTOV;yFAIB;sVOS SEEV
sMEEJ SUAB;sVOS NRUA;sIB YAM;sXAUS;sCIM TSOV ROG;BnDIGIT ZERO;tONE;tTWO;uHREE;tFOUR;uIVE;tSIX;uEVEN
tEIGHT;tNINE;2nNUMBER TENS;uHUNDREDS;uTEN THOUSANDS;uMILLIONS;uHUNDRED MILLIONS;uTEN BILLIONS
vRILLIONS;2nSIGN VOS LUB;sXYOO;sHLI;sTHIRD-STAGE HLI;sZWJ THAJ;sHNUB;sNQIG;sXIAB;sNTUJ;sAV
sTXHEEJ CEEV;sMEEJ TSEEB;sTAU;sLOS;sMUS;sCIM HAIS LUS NTOG NTOG;wCUAM TSHOOJ;wTXWV;zb CHWV
wPUB DAWB;wNRES TOS;6nCLAN SIGN TSHEEJ;xYEEG;xLIS;yAUJ;xXYOOJ;xKOO;xHAWJ;xMUAS;xTHOJ;ySAB;xPHAB
xKHAB;xHAM;xVAJ;xFAJ;xYAJ;xTSWB;xKWM;xVWJ;2B1aMEDEFAIDRIN CAPITAL LETTER M;zcS;zcV;zcW;zcATIU;zcZ
zcKP;zcP;zcT;zcG;zcF;zcI;zcK;zcA;zcJ;zcE;zcB;zcC;zcU;zcYU;zcL;zcQ;zcH;0zdP;zcNG;0zdY;zcX;zcD;zcOE
zcN;zcR;zcO;zcAI;zcY;mSMALL LETTER M;zaS;zaV;zaW;zaATIU;zaZ;zaKP;zaP;zaT;zaG;zaF;zaI;zaK;zaA;zaJ
zaE;zaB;zaC;zaU;zaYU;zaL;zaQ;zaH;0zbP;zaNG;0zbY;zaX;zaD;zaOE;zaN;zaR;zaO;zaAI;zaY;mDIGIT ZERO;sONE
sTWO;tHREE;sFOUR;tIVE;sSIX;tEVEN;sEIGHT;sNINE;mNUMBER TEN;tELEVEN;tTWELVE;uHIRTEEN;tFOURTEEN
uIFTEEN;tSIXTEEN;uEVENTEEN;tEIGHTEEN;tNINETEEN;mDIGIT ONE ALTERNATE FORM;sTWO ALTERNATE FORM
tHREE ALTERNATE FORM;mCOMMA;mFULL STOP;mSYMBOL AIVA;mEXCLAMATION OH;66bIAO LETTER PA;mBA;mYI PA
mPLA;mMA;nHA;mARCHAIC MA;mFA;mVA;nFA;mTA;mDA;mYI TTA;qA;mTTA;mDDA;mNA;nHA;mYI NNA;mARCHAIC NA;mNNA
oHA;mLA;nYA;nHA;oYA;mTLHA;mDLHA;mTLHYA;mDLHYA;mKA;mGA;mYI KA;mQA;nGA;mNGA;oHA;mARCHAIC NGA;mHA;mXA
mGHA;oHA;mTSSA;mDZZA;mNYA;oHA;mTSHA;mDZHA;mYI TSHA;pDZHA;mREFORMED TSHA;mSHA;nSA;mZHA;nSHA;mTSA
mDZA;mYI TSA;mSA;mZA;nSA;nZA;oSA;mARCHAIC ZZA;mZZYA;oSYA;mWA;mAH;mHHA;mBRI;mSYI;mDZYI;mTE;nSE;mRTE
5fSIGN CONSONANT MODIFIER BAR;fLETTER NASALIZATION;fSIGN ASPIRATION;kREFORMED VOICING;tASPIRATION
fVOWEL SIGN A;rA;rHH;rN;sG;qO;rO;qWO;r;qE;rN;sG;qOEY;qI;rA;sN;tG;rO;rE;rI;rU;rNG;qU;rA;sN;tG;rU;rEI
rNG;qY;rI;qAE;sE;qERR;qROUNDED ERR;qER;qROUNDED ER;qAI;qEI;qAU;qOU;qN;rG;qUOG;qYUI;qOG;rER;qVW;qIG
qEA;qIONG;qUI;8fTONE RIGHT;kTOP RIGHT;kABOVE;kBELOW;fLETTER TONE-2;r3;r4;r5;r6;r7;r8
mREFORMED TONE-1;zb2;zb4;zb5;zb6;zb8;41aTANGUT ITERATION MARK;aNUSHU ITERATION MARK
aOLD CHINESE HOOK MARK;mITERATION MARK;aKHITAN SMALL SCRIPT FILLER
CaVIETNAMESE ALTERNATE READING MARK CA;zjNHAY;180FaTANGUT COMPONENT-001;t2;t3;t4;t5;t6;t7;t8;t9;s10
t1;t2;t3;t4;t5;t6;t7;t8;t9;s20;t1;t2;t3;t4;t5;t6;t7;t8;t9;s30;t1;t2;t3;t4;t5;t6;t7;t8;t9;s40;t1;t2
t3;t4;t5;t6;t7;t8;t9;s50;t1;t2;t3;t4;t5;t6;t7;t8;t9;s60;t1;t2;t3;t4;t5;t6;t7;t8;t9;s70;t1;t2;t3;t4
t5;t6;t7;t8;t9;s80;t1;t2;t3;t4;t5;t6;t7;t8;t9;s90;t1;t2;t3;t4;t5;t6;t7;t8;t9;r100;t1;t2;t3;t4;t5;t6
t7;t8;t9;s10;t1;t2;t3;t4;t5;t6;t7;t8;t9;s20;t1;t2;t3;t4;t5;t6;t7;t8;t9;s30;t1;t2;t3;t4;t5;t6;t7;t8
t9;s40;t1;t2;t3;t4;t5;t6;t7;t8;t9;s50;t1;t2;t3;t4;t5;t6;t7;t8;t9;s60;t1;t2;t3;t4;t5;t6;t7;t8;t9;s70
t1;t2;t3;t4;t5;t6;t7;t8;t9;s80;t1;t2;t3;t4;t5;t6;t7;t8;t9;s90;t1;t2;t3;t4;t5;t6;t7;t8;t9;r200;t1;t2
t3;t4;t5;t6;t7;t8;t9;s10;t1;t2;t3;t4;t5;t6;t7;t8;t9;s20;t1;t2;t3;t4;t5;t6;t7;t8;t9;s30;t1;t2;t3;t4
t5;t6;t7;t8;t9;s40;t1;t2;t3;t4;t5;t6;t7;t8;t9;s50;t1;t2;t3;t4;t5;t6;t7;t8;t9;s60;t1;t2;t3;t4;t5;t6
t7;t8;t9;s70;t1;t2;t3;t4;t5;t6;t7;t8;t9;s80;t1;t2;t3;t4;t5;t6;t7;t8;t9;s90;t1;t2;t3;t4;t5;t6;t7;t8
t9;r300;t1;t2;t3;t4;t5;t6;t7;t8;t9;s10;t1;t2;t3;t4;t5;t6;t7;t8;t9;s20;t1;t2;t3;t4;t5;t6;t7;t8;t9
s30;t1;t2;t3;t4;t5;t6;t7;t8;t9;s40;t1;t2;t3;t4;t5;t6;t7;t8;t9;s50;t1;t2;t3;t4;t5;t6;t7;t8;t9;s60;t1
t2;t3;t4;t5;t6;t7;t8;t9;s70;t1;t2;t3;t4;t5;t6;t7;t8;t9;s80;t1;t2;t3;t4;t5;t6;t7;t8;t9;s90;t1;t2;t3
t4;t5;t6;t7;t8;t9;r400;t1;t2;t3;t4;t5;t6;t7;t8;t9;s10;t1;t2;t3;t4;t5;t6;t7;t8;t9;s20;t1;t2;t3;t4;t5
t6;t7;t8;t9;s30;t1;t2;t3;t4;t5;t6;t7;t8;t9;s40;t1;t2;t3;t4;t5;t6;t7;t8;t9;s50;t1;t2;t3;t4;t5;t6;t7
t8;t9;s60;t1;t2;t3;t4;t5;t6;t7;t8;t9;s70;t1;t2;t3;t4;t5;t6;t7;t8;t9;s80;t1;t2;t3;t4;t5;t6;t7;t8;t9
s90;t1;t2;t3;t4;t5;t6;t7;t8;t9;r500;t1;t2;t3;t4;t5;t6;t7;t8;t9;s10;t1;t2;t3;t4;t5;t6;t7;t8;t9;s20
t1;t2;t3;t4;t5;t6;t7;t8;t9;s30;t1;t2;t3;t4;t5;t6;t7;t8;t9;s40;t1;t2;t3;t4;t5;t6;t7;t8;t9;s50;t1;t2
t3;t4;t5;t6;t7;t8;t9;s60;t1;t2;t3;t4;t5;t6;t7;t8;t9;s70;t1;t2;t3;t4;t5;t6;t7;t8;t9;s80;t1;t2;t3;t4
t5;t6;t7;t8;t9;s90;t1;t2;t3;t4;t5;t6;t7;t8;t9;r600;t1;t2;t3;t4;t5;t6;t7;t8;t9;s10;t1;t2;t3;t4;t5;t6
t7;t8;t9;s20;t1;t2;t3;t4;t5;t6;t7;t8;t9;s30;t1;t2;t3;t4;t5;t6;t7;t8;t9;s40;t1;t2;t3;t4;t5;t6;t7;t8
t9;s50;t1;t2;t3;t4;t5;t6;t7;t8;t9;s60;t1;t2;t3;t4;t5;t6;t7;t8;t9;s70;t1;t2;t3;t4;t5;t6;t7;t8;t9;s80
t1;t2;t3;t4;t5;t6;t7;t8;t9;s90;t1;t2;t3;t4;t5;t6;t7;t8;t9;r700;t1;t2;t3;t4;t5;t6;t7;t8;t9;s10;t1;t2
t3;t4;t5;t6;t7;t8;t9;s20;t1;t2;t3;t4;t5;t6;t7;t8;t9;s30;t1;t2;t3;t4;t5;t6;t7;t8;t9;s40;t1;t2;t3;t4
t5;t6;t7;t8;t9;s50;t1;t2;t3;t4;t5;t6;t7;t8;t9;s60;t1;t2;t3;t4;t5;t6;t7;t8
aKHITAN SMALL SCRIPT CHARACTER-18B00;zj1;zj2;zj3;zj4;zj5;zj6;zj7;zj8;zj9;zjA;zjB;zjC;zjD;zjE;zjF
zi10;zj1;zj2;zj3;zj4;zj5;zj6;zj7;zj8;zj9;zjA;zjB;zjC;zjD;zjE;zjF;zi20;zj1;zj2;zj3;zj4;zj5;zj6;zj7
zj8;zj9;zjA;zjB;zjC;zjD;zjE;zjF;zi30;zj1;zj2;zj3;zj4;zj5;zj6;zj7;zj8;zj9;zjA;zjB;zjC;zjD;zjE;zjF
zi40;zj1;zj2;zj3;zj4;zj5;zj6;zj7;zj8;zj9;zjA;zjB;zjC;zjD;zjE;zjF;zi50;zj1;zj2;zj3;zj4;zj5;zj6;zj7
zj8;zj9;zjA;zjB;zjC;zjD;zjE;zjF;zi60;zj1;zj2;zj3;zj4;zj5;zj6;zj7;zj8;zj9;zjA;zjB;zjC;zjD;zjE;zjF
zi70;zj1;zj2;zj3;zj4;zj5;zj6;zj7;zj8;zj9;zjA;zjB;zjC;zjD;zjE;zjF;zi80;zj1;zj2;zj3;zj4;zj5;zj6;zj7
zj8;zj9;zjA;zjB;zjC;zjD;zjE;zjF;zi90;zj1;zj2;zj3;zj4;zj5;zj6;zj7;zj8;zj9;zjA;zjB;zjC;zjD;zjE;zjF
ziA0;zj1;zj2;zj3;zj4;zj5;zj6;zj7;zj8;zj9;zjA;zjB;zjC;zjD;zjE;zjF;ziB0;zj1;zj2;zj3;zj4;zj5;zj6;zj7
zj8;zj9;zjA;zjB;zjC;zjD;zjE;zjF;ziC0;zj1;zj2;zj3;zj4;zj5;zj6;zj7;zj8;zj9;zjA;zjB;zjC;zjD;zjE;zjF
ziD0;zj1;zj2;zj3;zj4;zj5;zj6;zj7;zj8;zj9;zjA;zjB;zjC;zjD;zjE;zjF;ziE0;zj1;zj2;zj3;zj4;zj5;zj6;zj7
zj8;zj9;zjA;zjB;zjC;zjD;zjE;zjF;ziF0;zj1;zj2;zj3;zj4;zj5;zj6;zj7;zj8;zj9;zjA;zjB;zjC;zjD;zjE;zjF
zhC00;zj1;zj2;zj3;zj4;zj5;zj6;zj7;zj8;zj9;zjA;zjB;zjC;zjD;zjE;zjF;zi10;zj1;zj2;zj3;zj4;zj5;zj6;zj7
zj8;zj9;zjA;zjB;zjC;zjD;zjE;zjF;zi20;zj1;zj2;zj3;zj4;zj5;zj6;zj7;zj8;zj9;zjA;zjB;zjC;zjD;zjE;zjF
zi30;zj1;zj2;zj3;zj4;zj5;zj6;zj7;zj8;zj9;zjA;zjB;zjC;zjD;zjE;zjF;zi40;zj1;zj2;zj3;zj4;zj5;zj6;zj7
zj8;zj9;zjA;zjB;zjC;zjD;zjE;zjF;zi50;zj1;zj2;zj3;zj4;zj5;zj6;zj7;zj8;zj9;zjA;zjB;zjC;zjD;zjE;zjF
zi60;zj1;zj2;zj3;zj4;zj5;zj6;zj7;zj8;zj9;zjA;zjB;zjC;zjD;zjE;zjF;zi70;zj1;zj2;zj3;zj4;zj5;zj6;zj7
zj8;zj9;zjA;zjB;zjC;zjD;zjE;zjF;zi80;zj1;zj2;zj3;zj4;zj5;zj6;zj7;zj8;zj9;zjA;zjB;zjC;zjD;zjE;zjF
zi90;zj1;zj2;zj3;zj4;zj5;zj6;zj7;zj8;zj9;zjA;zjB;zjC;zjD;zjE;zjF;ziA0;zj1;zj2;zj3;zj4;zj5;zj6;zj7
zj8;zj9;zjA;zjB;zjC;zjD;zjE;zjF;ziB0;zj1;zj2;zj3;zj4;zj5;zj6;zj7;zj8;zj9;zjA;zjB;zjC;zjD;zjE;zjF
ziC0;zj1;zj2;zj3;zj4;zj5;zj6;zj7;zj8;zj9;zjA;zjB;zjC;zjD;zjE;zjF;ziD0;zj1;zj2;zj3;zj4;zj5
231BbATAKANA LETTER MINNAN TONE-2;zd3;zd4;zd5;2zd7;zd8;xNASALIZED TONE-1;zn2;zn3;zn4;zn5;2zn7;zn8
2qARCHAIC E;aHENTAIGANA LETTER E-1;0bIRAGANA LETTER ARCHAIC YE;bENTAIGANA LETTER A-1;u2;u3;uWO;sI-1
u2;u3;u4;sU-1;u2;u3;u4;u5;sE-2;u3;u4;u5;u6;sO-1;u2;u3;sKA-1;v2;v3;v4;v5;v6;v7;v8;v9;v10;w1;vKE;tI-1
v2;v3;v4;v5;v6;v7;v8;tU-1;v2;v3;v4;v5;v6;v7;tE-1;v2;v3;v4;v5;v6;tO-1;v2;v3;vKI;sSA-1;v2;v3;v4;v5;v6
v7;v8;tI-1;v2;v3;v4;v5;v6;tU-1;v2;v3;v4;v5;v6;v7;v8;tE-1;v2;v3;v4;v5;tO-1;v2;v3;v4;v5;v6;v7;sTA-1
v2;v3;v4;tI-1;v2;v3;v4;v5;v6;v7;tU-1;v2;v3;v4;vTO;tE-1;v2;v3;v4;v5;v6;v7;v8;v9;tO-1;v2;v3;v4;v5;v6
vRA;sNA-1;v2;v3;v4;v5;v6;v7;v8;v9;tI-1;v2;v3;v4;v5;v6;v7;vTE;tU-1;v2;v3;tE-1;v2;v3;v4;v5;v6;vKO
tO-1;v2;v3;v4;v5;sHA-1;v2;v3;v4;v5;v6;v7;v8;v9;v10;w1;tI-1;v2;v3;v4;v5;v6;v7;tU-1;v2;v3;tE-1;v2;v3
v4;v5;v6;v7;tO-1;v2;v3;v4;v5;v6;v7;v8;sMA-1;v2;v3;v4;v5;v6;v7;tI-1;v2;v3;v4;v5;v6;v7;tU-1;v2;v3;v4
tE-1;v2;vMA;tO-1;v2;v3;v4;v5;v6;sYA-1;v2;v3;v4;v5;vYO;tU-1;v2;v3;v4;tO-1;v2;v3;v4;v5;v6;sRA-1;v2;v3
v4;tI-1;v2;v3;v4;v5;v6;v7;tU-1;v2;v3;v4;v5;v6;tE-1;v2;v3;v4;tO-1;v2;v3;v4;v5;v6;sWA-1;v2;v3;v4;v5
tI-1;v2;v3;v4;v5;tE-1;v2;v3;v4;tO-1;v2;v3;v4;v5;v6;v7;sN-MU-MO-1;zb2;bIRAGANA LETTER ARCHAIC WU
aKATAKANA LETTER ARCHAIC YI;zaE;yWU;2EaHIRAGANA LETTER SMALL WI;xE;xO;12aKATAKANA LETTER SMALL WI
xE;xO;wN;9aNUSHU CHARACTER-1B170;u1;u2;u3;u4;u5;u6;u7;u8;u9;uA;uB;uC;uD;uE;uF;t80;u1;u2;u3;u4;u5;u6
u7;u8;u9;uA;uB;uC;uD;uE;uF;t90;u1;u2;u3;u4;u5;u6;u7;u8;u9;uA;uB;uC;uD;uE;uF;tA0;u1;u2;u3;u4;u5;u6
u7;u8;u9;uA;uB;uC;uD;uE;uF;tB0;u1;u2;u3;u4;u5;u6;u7;u8;u9;uA;uB;uC;uD;uE;uF;tC0;u1;u2;u3;u4;u5;u6
u7;u8;u9;uA;uB;uC;uD;uE;uF;tD0;u1;u2;u3;u4;u5;u6;u7;u8;u9;uA;uB;uC;uD;uE;uF;tE0;u1;u2;u3;u4;u5;u6
u7;u8;u9;uA;uB;uC;uD;uE;uF;tF0;u1;u2;u3;u4;u5;u6;u7;u8;u9;uA;uB;uC;uD;uE;uF;s200;u1;u2;u3;u4;u5;u6
u7;u8;u9;uA;uB;uC;uD;uE;uF;t10;u1;u2;u3;u4;u5;u6;u7;u8;u9;uA;uB;uC;uD;uE;uF;t20;u1;u2;u3;u4;u5;u6
u7;u8;u9;uA;uB;uC;uD;uE;uF;t30;u1;u2;u3;u4;u5;u6;u7;u8;u9;uA;uB;uC;uD;uE;uF;t40;u1;u2;u3;u4;u5;u6
u7;u8;u9;uA;uB;uC;uD;uE;uF;t50;u1;u2;u3;u4;u5;u6;u7;u8;u9;uA;uB;uC;uD;uE;uF;t60;u1;u2;u3;u4;u5;u6
u7;u8;u9;uA;uB;uC;uD;uE;uF;t70;u1;u2;u3;u4;u5;u6;u7;u8;u9;uA;uB;uC;uD;uE;uF;t80;u1;u2;u3;u4;u5;u6
u7;u8;u9;uA;uB;uC;uD;uE;uF;t90;u1;u2;u3;u4;u5;u6;u7;u8;u9;uA;uB;uC;uD;uE;uF;tA0;u1;u2;u3;u4;u5;u6
u7;u8;u9;uA;uB;uC;uD;uE;uF;tB0;u1;u2;u3;u4;u5;u6;u7;u8;u9;uA;uB;uC;uD;uE;uF;tC0;u1;u2;u3;u4;u5;u6
u7;u8;u9;uA;uB;uC;uD;uE;uF;tD0;u1;u2;u3;u4;u5;u6;u7;u8;u9;uA;uB;uC;uD;uE;uF;tE0;u1;u2;u3;u4;u5;u6
u7;u8;u9;uA;uB;uC;uD;uE;uF;tF0;u1;u2;u3;u4;u5;u6;u7;u8;u9;uA;uB;905aDUPLOYAN LETTER H;qX;qP;qT;qF
qK;qL;qB;qD;qV;qG;qR;qP N;qD S;qF N;qK M;qR S;qTH;qSLOAN DH;qDH;qKK;qSLOAN J;qHL;qLH;qRH;qM;qN;qJ
qS;qM N;qN M;qJ M;qS J;qM WITH DOT;qN WITH DOT;qJ WITH DOT;zbS INSIDE AND ABOVE;qS WITH DOT
zb BELOW;qM S;qN S;qJ S;qS S;qM N S;qN M S;qJ M S;qS J S;qJ S WITH DOT;sN;t S;qS T;t R;sP;t R;qT S
sR S;qW;rH;r R;qS N;sM;qK R S;qG R S;qS K;t R;qA;qSLOAN OW;qOA;r;qAOU;qI;qE;qIE;qSHORT I;qUI;qEE
qSLOAN EH;qROMANIAN I;qSLOAN EE;qLONG I;qYE;qU;qEU;qXW;qU N;qLONG U;qROMANIAN U;qUH;qSLOAN U;qOOH
rW;rU;qWA;rO;rI;rEI;rOW;qNASAL U;wO;wI;wA;qPERNIN AN;yM;qSLOAN EN;wAN;wON;qVOCALIC M
6jAFFIX LEFT HORIZONTAL SECANT;pMID HORIZONTAL SECANT;pRIGHT HORIZONTAL SECANT;pLOW VERTICAL SECANT
pMID VERTICAL SECANT;pHIGH VERTICAL SECANT;pATTACHED SECANT;yLEFT-TO-RIGHT SECANT;yTANGENT;zbIL
yE HOOK;yI HOOK;yTANGENT HOOK;4pHIGH ACUTE;uTIGHT ACUTE;uGRAVE;uLONG GRAVE;uDOT;uCIRCLE;uLINE;uWAVE
uVERTICAL;8pLOW ACUTE;tTIGHT ACUTE;tGRAVE;tLONG GRAVE;tDOT;tCIRCLE;tLINE;tWAVE;tVERTICAL;tARROW
3jSIGN O WITH CROSS;jTHICK LETTER SELECTOR;jDOUBLE MARK;jPUNCTUATION CHINOOK FULL STOP
aSHORTHAND FORMAT LETTER OVERLAP;rCONTINUING OVERLAP;rDOWN STEP;rUP STEP
125DaZNAMENNY COMBINING MARK GORAZDO NIZKO S KRYZHEM ON LEFT;yNIZKO S KRYZHEM ON LEFT
yTSATA ON LEFT;yGORAZDO NIZKO ON LEFT;yNIZKO ON LEFT;ySREDNE ON LEFT;yMALO POVYSHE ON LEFT
yPOVYSHE ON LEFT;yVYSOKO ON LEFT;yMALO POVYSHE S KHOKHLOM ON LEFT;yPOVYSHE S KHOKHLOM ON LEFT
yVYSOKO S KHOKHLOM ON LEFT;yGORAZDO NIZKO S KRYZHEM ON RIGHT;yNIZKO S KRYZHEM ON RIGHT
yTSATA ON RIGHT;yGORAZDO NIZKO ON RIGHT;yNIZKO ON RIGHT;ySREDNE ON RIGHT;yMALO POVYSHE ON RIGHT
yPOVYSHE ON RIGHT;yVYSOKO ON RIGHT;yMALO POVYSHE S KHOKHLOM ON RIGHT;yPOVYSHE S KHOKHLOM ON RIGHT
yVYSOKO S KHOKHLOM ON RIGHT;yTSATA S KRYZHEM;yMALO POVYSHE S KRYZHEM;ySTRANNO MALO POVYSHE
yPOVYSHE S KRYZHEM;ziTRANNO;yVYSOKO S KRYZHEM;yMALO POVYSHE STRANNO;yGORAZDO VYSOKO;yZELO;yON
yRAVNO;yTIKHAYA;yBORZAYA;yUDARKA;yPODVERTKA;yLOMKA;yKUPNAYA;zaACHKA;yZEVOK;ySKOBA;yRAZSEKA
yKRYZH ON LEFT;3tTONAL RANGE MARK MRACHNO;zlSVETLO;zlTRESVETLO;tMARK ZADERZHKA
yDEMESTVENNY ZADERZHKA;yOTSECHKA;yPODCHASHIE;zj WITH VERTICAL STROKE;yCHASHKA;zg POLNAYA;yOBLACHKO
ySOROCHYA NOZHKA;yTOCHKA;yDVOETOCHIE;tATTACHING VERTICAL OMET;tMARK CURVED OMET;yKRYZH
tLOWER TONAL RANGE INDICATOR;jPRIZNAK MODIFIER LEVEL-2;zh3;zbDIRECTION FLIP;zbKRYZH;zbROG
AjNEUME KRYUK;u TIKHY;pPARAKLIT;pDVA V CHELNU;pKLYUCH;pZANOZHEK;pSTOPITSA;x S OCHKOM;pPEREVODKA
y NEPOSTOYANNAYA;pSTOPITSA WITH SOROCHYA NOZHKA;pCHELYUSTKA;pPALKA;pZAPYATAYA;pGOLUBCHIK BORZY
zaTIKHY;zaMRACHNY;zaSVETLY;zaTRESVETLY;pVRAKHIYA PROSTAYA;yMRACHNAYA;ySVETLAYA;yTRESVETLAYA
yKLYUCHEVAYA PROSTAYA;zlMRACHNAYA;zlSVETLAYA;zlTRESVETLAYA;pDOUBLE ZAPYATAYA;pREVERSED CHELYUSTKA
pDERBITSA;pKHAMILO;pCHASHKA;pPODCHASHIE;pSKAMEYTSA MRACHNAYA;zaSVETLAYA;zaTRESVETLAYA;zbIKHAYA
pDEMESTVENNY KLYUCH;pSKAMEYTSA KLYUCHEVAYA SVETLAYA;zhNEPOSTOYANNAYA;zhVAYA TIKHAYA
zaDVOECHELNAYA PROSTAYA;znSVETLAYA;znNEPOSTOYANNAYA;znKLYUCHEVAYA;qLOZHITIE;y S ZAPYATOY;zaZAKRYTOE
zaS KRYZHEM;pKRYZH;pROG;pFITA;pKOBYLA;pZMEYTSA;pSTATYA;v S ZAPYATOY;yKRYZHEM;yZAPYATOY I KRYZHEM
yKRYZHEM I ZAPYATOY;wZAKRYTAYA;zg S ZAPYATOY;wS ROGOM;yDVUMYA ZAPYATYMI;yZAPYATOY I PODCHASHIEM
pPOLKULIZMY;pSTATYA NEPOSTOYANNAYA;rRELA PROSTAYA;wMRACHNOTIKHAYA;wKRYZHEVAYA;wPOLUPOVODNAYA
yVODNAYA;wNEPOSTOYANNAYA;wKLYUCHEPOVODNAYA;zeNEPOSTOYANNAYA;wTIKHAYA PUTNAYA;wDVOECHELNAYA
zgOKRYZHEVAYA;zhPOVODNAYA;zgAYA KLYUCHEVAYA;zgOPOVODNAYA KLYUCHEVAYA
wGROMNAYA WITH SINGLE ZAPYATAYA;zbOPOVODNAYA WITH SINGLE ZAPYATAYA;zbNAYA;zbOPOVODNAYA
zl WITH DOUBLE ZAPYATAYA;zcKRYZHEVAYA;zm POVODNAYA;pMECHIK;v POVODNY;wKLYUCHEVOY;zePOVODNY
zeNEPOSTOYANNY;pSTRELA TRYASOGLASNAYA;zdPOVODNAYA;zdSTRELNAYA;pOSOKA;u SVETLAYA;vTRESVETLAYA
vKRYUKOVAYA SVETLAYA;wLYUCHEVAYA SVETLAYA;ziNEPOSTOYANNAYA;pSTRELA KRYUKOVAYA;zh POVODNAYA
ziGROMNAYA WITH SINGLE ZAPYATAYA;zmOPOVODNAYA WITH SINGLE ZAPYATAYA;zmNAYA;zmOPOVODNAYA
zw WITH DOUBLE ZAPYATAYA;znKRYZHEVAYA;zx POVODNAYA;ziTRYASKA;pKUFISMA;pOBLAKO;pDUDA;pNEMKA;pPAUK
3DaBYZANTINE MUSICAL SYMBOL PSILI;zaDASEIA;zaPERISPOMENI;zaOXEIA EKFONITIKON;zgDIPLI
zaVAREIA EKFONITIKON;zhDIPLI;zaKATHISTI;zaSYRMATIKI;zaPARAKLITIKI;zaYPOKRISIS;zj DIPLI;zaKREMASTI
zaAPESO EKFONITIKON;zaEXO EKFONITIKON;zaTELEIA;zaKENTIMATA;zaAPOSTROFOS;zk DIPLI;zaSYNEVMA;zaTHITA
zaOLIGON ARCHAION;zaGORGON ARCHAION;zaPSILON;zaCHAMILON;zaVATHY;zaISON ARCHAION;zaKENTIMA ARCHAION
zhTA ARCHAION;zaSAXIMATA;zaPARICHON;zaSTAVROS APODEXIA;zaOXEIAI ARCHAION;zaVAREIAI ARCHAION
zaAPODERMA ARCHAION;zdTHEMA;zaKLASMA;zaREVMA;zaPIASMA ARCHAION;zaTINAGMA;zaANATRICHISMA;zaSEISMA
zbYNAGMA ARCHAION;ziMETA STAVROU;zaOYRANISMA ARCHAION;zaTHEMA;zaLEMOI;zaDYO;zaTRIA;zbESSERA
zaKRATIMATA;zaAPESO EXO NEO;zaFTHORA ARCHAION;zaIMIFTHORA;zaTROMIKON ARCHAION;zaKATAVA TROMIKON
zaPELASTON;zbSIFISTON;zaKONTEVMA;zaCHOREVMA ARCHAION;zaRAPISMA;zaPARAKALESMA ARCHAION
zfLITIKI ARCHAION;zaICHADIN;zaNANA;zaPETASMA;zaKONTEVMA ALLO;zaTROMIKON ALLO;zaSTRAGGISMATA
zaGRONTHISMATA;zaISON NEO;zaOLIGON NEO;zbXEIA NEO;zaPETASTI;zaKOUFISMA;zaPETASTOKOUFISMA
zaKRATIMOKOUFISMA;zaPELASTON NEO;zaKENTIMATA NEO ANO;zh NEO ANO;zaYPSILI;zaAPOSTROFOS NEO
zjI SYNDESMOS NEO;zaYPORROI;zaKRATIMOYPORROON;zaELAFRON;zaCHAMILI;zaMIKRON ISON;zaVAREIA NEO
zaPIASMA NEO;zbSIFISTON NEO;zaOMALON;zaANTIKENOMA;zaLYGISMA;zaPARAKLITIKI NEO;zfALESMA NEO
zaETERON PARAKALESMA;zaKYLISMA;zaANTIKENOKYLISMA;zaTROMIKON NEO;zaEKSTREPTON;zaSYNAGMA NEO;zcRMA
zaCHOREVMA NEO;zaEPEGERMA;zaSEISMA NEO;zaXIRON KLASMA;zaTROMIKOPSIFISTON;zaPSIFISTOLYGISMA
zaTROMIKOLYGISMA;zhPARAKALESMA;zaPSIFISTOPARAKALESMA;zaTROMIKOSYNAGMA;zaPSIFISTOSYNAGMA
zaGORGOSYNTHETON;zaARGOSYNTHETON;zaETERON ARGOSYNTHETON;zaOYRANISMA NEO;zaTHEMATISMOS ESO;znXO
zf APLOUN;zdS KAI APOTHES;zaKATAVASMA;zaENDOFONON;zaYFEN KATO;zfANO;zaSTAVROS;zaKLASMA ANO
zaDIPLI ARCHAION;zaKRATIMA ARCHAION;zjLLO;ziNEO;zaAPODERMA NEO;zcLI;zaDIPLI;zaTRIPLI;zbETRAPLI
zaKORONIS;zaLEIMMA ENOS CHRONOU;zhDYO CHRONON;zhTRION CHRONON;ziESSARON CHRONON;zhIMISEOS CHRONOU
zaGORGON NEO ANO;zhPARESTIGMENON ARISTERA;zvDEXIA;zaDIGORGON;zi PARESTIGMENON ARISTERA KATO
zzISTERA ANO;zxDEXIA;zaTRIGORGON;zaARGON;zaIMIDIARGON;zaDIARGON;zaAGOGI POLI ARGI;zgARGOTERI;zjI
zgMETRIA;ziSI;zgGORGI;zkOTERI;zgPOLI GORGI;zaMARTYRIA PROTOS ICHOS;zjALLI PROTOS ICHOS
zjDEYTEROS ICHOS;zjALLI DEYTEROS ICHOS;zjTRITOS ICHOS;zmFONIAS;zkETARTOS ICHOS;zsLEGETOS ICHOS
zjLEGETOS ICHOS;zjPLAGIOS ICHOS;zaISAKIA TELOUS ICHIMATOS;zaAPOSTROFOI TELOUS ICHIMATOS
zaFANEROSIS TETRAFONIAS;zkMONOFONIAS;zkDIFONIAS;zaMARTYRIA VARYS ICHOS;zjPROTOVARYS ICHOS
zkLAGIOS TETARTOS ICHOS;zaGORTHMIKON N APLOUN;znDIPLOUN;zaENARXIS KAI FTHORA VOU;zaIMIFONON
zeTHORON;zaFTHORA ARCHAION DEYTEROU ICHOU;zhDIATONIKI PA;zrNANA;zhNAOS ICHOS;zhDIATONIKI DI
zhSKLIRON DIATONON DI;zhDIATONIKI KE;zrZO;zrNI KATO;zuANO;zhMALAKON CHROMA DIFONIAS;zwMONOFONIAS
zbHTORA SKLIRON CHROMA VASIS;0zbTHORA SKLIRON CHROMA VASIS;zwSYNAFI;zhNENANO;zaCHROA ZYGOS;zgKLITON
zgSPATHI;zaFTHORA I YFESIS TETARTIMORION;zhENARMONIOS ANTIFONIA;zaYFESIS TRITIMORION
zaDIESIS TRITIMORION;ziETARTIMORION;zhAPLI DYO DODEKATA;zhMONOGRAMMOS TESSERA DODEKATA
zhDIGRAMMOS EX DODEKATA;zhTRIGRAMMOS OKTO DODEKATA;zaYFESIS APLI DYO DODEKATA
zhMONOGRAMMOS TESSERA DODEKATA;zhDIGRAMMOS EX DODEKATA;zhTRIGRAMMOS OKTO DODEKATA;zaGENIKI DIESIS
zhYFESIS;zaDIASTOLI APLI MIKRI;zpEGALI;zjDIPLI;zjTHESEOS;zaSIMANSIS THESEOS;zq DISIMOU;zrTRISIMOU
zsETRASIMOU;zjARSEOS;zp DISIMOU;zqTRISIMOU;zrETRASIMOU;zaDIGRAMMA GG;zcFTOGGOS OU;zaSTIGMA
zaARKTIKO PA;ziVOU;ziGA;ziDI;ziKE;ziZO;ziNI;zaKENTIMATA NEO MESO;zh NEO MESO;zhTA NEO KATO
zh NEO KATO;zbLASMA KATO;zaGORGON NEO KATO;BaMUSICAL SYMBOL SINGLE BARLINE;pDOUBLE BARLINE
pFINAL BARLINE;pREVERSE FINAL BARLINE;pDASHED BARLINE;pSHORT BARLINE;pLEFT REPEAT SIGN
pRIGHT REPEAT SIGN;qEPEAT DOTS;pDAL SEGNO;r CAPO;pSEGNO;pCODA;pREPEATED FIGURE-1;zg2;zg3;pFERMATA
w BELOW;pBREATH MARK;pCAESURA;pBRACE;tKET;pONE-LINE STAFF;pTWO-LINE STAFF;qHREE-LINE STAFF
pFOUR-LINE STAFF;qIVE-LINE STAFF;pSIX-LINE STAFF;tSTRING FRETBOARD;pFOUR-STRING FRETBOARD;pG CLEF
v OTTAVA ALTA;zeBASSA;pC CLEF;pF CLEF;v OTTAVA ALTA;zeBASSA;pDRUM CLEF-1;za2
3pMULTIPLE MEASURE REST;pDOUBLE SHARP;wFLAT;pFLAT UP;uDOWN;pNATURAL UP;xDOWN;pSHARP UP;vDOWN
pQUARTER TONE SHARP;zdFLAT;pCOMMON TIME;qUT TIME;pOTTAVA ALTA;wBASSA;pQUINDICESIMA ALTA;zdBASSA
pMULTI REST;pWHOLE REST;pHALF REST;pQUARTER REST;pEIGHTH REST;pSIXTEENTH REST;pTHIRTY-SECOND REST
pSIXTY-FOURTH REST;pONE HUNDRED TWENTY-EIGHTH REST;pX NOTEHEAD;pPLUS NOTEHEAD;pCIRCLE X NOTEHEAD
pSQUARE NOTEHEAD WHITE;zgBLACK;pTRIANGLE NOTEHEAD UP WHITE;zlBLACK;ziLEFT WHITE;znBLACK
ziRIGHT WHITE;zoBLACK;ziDOWN WHITE;znBLACK;ziUP RIGHT WHITE;zrBLACK;pMOON NOTEHEAD WHITE;zeBLACK
pTRIANGLE-ROUND NOTEHEAD DOWN WHITE;ztBLACK;pPARENTHESIS NOTEHEAD;pVOID NOTEHEAD;pNOTEHEAD BLACK
qULL NOTEHEAD;pCLUSTER NOTEHEAD WHITE;zhBLACK;pBREVE;pWHOLE NOTE;pHALF NOTE;pQUARTER NOTE
pEIGHTH NOTE;pSIXTEENTH NOTE;pTHIRTY-SECOND NOTE;pSIXTY-FOURTH NOTE;pONE HUNDRED TWENTY-EIGHTH NOTE
pCOMBINING STEM;zbPRECHGESANG STEM;zaTREMOLO-1;zi2;zi3;pFINGERED TREMOLO-1;zh2;zh3
pCOMBINING AUGMENTATION DOT;zaFLAG-1;zf2;zf3;zf4;zf5;pBEGIN BEAM;pEND BEAM;pBEGIN TIE;pEND TIE
pBEGIN SLUR;pEND SLUR;pBEGIN PHRASE;pEND PHRASE;pCOMBINING ACCENT;zaSTACCATO;zaTENUTO
zaSTACCATISSIMO;zaMARCATO;zh-STACCATO;zaACCENT-STACCATO;zaLOURE;pARPEGGIATO UP;zbDOWN
pCOMBINING DOIT;zaRIP;zaFLIP;zaSMEAR;zaBEND;zaDOUBLE TONGUE;zaTRIPLE TONGUE;pRINFORZANDO;pSUBITO;pZ
pPIANO;pMEZZO;pFORTE;pCRESCENDO;pDECRESCENDO;pGRACE NOTE SLASH;zbNO SLASH;pTR;qURN;pINVERTED TURN
pTURN SLASH;uUP;pORNAMENT STROKE-1;zg2;zg3;zg4;zg5;zg6;zg7;zg8;zg9;zg10;zh1;pHAUPTSTIMME
pNEBENSTIMME;pEND OF STIMME;pDEGREE SLASH;pCOMBINING DOWN BOW;zaUP BOW;zaHARMONIC;zaSNAP PIZZICATO
pPEDAL MARK;vUP MARK;pHALF PEDAL MARK;pGLISSANDO UP;zaDOWN;pWITH FINGERNAILS;pDAMP;t ALL;pMAXIMA
pLONGA;pBREVIS;pSEMIBREVIS WHITE;zbBLACK;pMINIMA;v BLACK;pSEMIMINIMA WHITE;zbBLACK;pFUSA WHITE
uBLACK;pLONGA PERFECTA REST;vIMPERFECTA REST;pBREVIS REST;pSEMIBREVIS REST;pMINIMA REST
pSEMIMINIMA REST;pTEMPUS PERFECTUM CUM PROLATIONE PERFECTA;zwIMPERFECTA;zwPERFECTA DIMINUTION-1
wIMPERFECTUM CUM PROLATIONE PERFECTA;zyIMPERFECTA;zzMPERFECTA DIMINUTION-1;zzMPERFECTA DIMINUTION-2
zzMPERFECTA DIMINUTION-3;pCROIX;pGREGORIAN C CLEF;zaF CLEF;pSQUARE B;pVIRGA;pPODATUS;pCLIVIS
pSCANDICUS;pCLIMACUS;pTORCULUS;pPORRECTUS;y FLEXUS;pSCANDICUS FLEXUS;pTORCULUS RESUPINUS
pPES SUBPUNCTIS;pKIEVAN C CLEF;wEND OF PIECE;wFINAL NOTE;wRECITATIVE MARK;wWHOLE NOTE;wHALF NOTE
wQUARTER NOTE STEM DOWN;zpUP;wEIGHTH NOTE STEM DOWN;zoUP;wFLAT SIGN;pSORI;pKORON
16aGREEK VOCAL NOTATION SYMBOL-1;zd2;zd3;zd4;zd5;zd6;zd7;zd8;zd9;zd10;ze1;ze2;ze3;ze4;ze5;ze6;ze7
ze8;ze9;zd20;ze1;ze2;ze3;ze4;zd50;ze1;ze2;ze3;ze4;gINSTRUMENTAL NOTATION SYMBOL-1;zk2;zk4;zk5;zk7
zk8;zk11;zl2;zl3;zl4;zl7;zl8;zl9;zk23;zl4;zl5;zl6;zl7;zl9;zk30;zl2;zl6;zl7;zl8;zl9;zk40;zl2;zl3;zl5
zl7;zl8;zl9;zk50;zl1;zl2;zl3;zl4;aCOMBINING GREEK MUSICAL TRISEME;zaETRASEME;yPENTASEME
aGREEK MUSICAL LEIMMA;9BaMAYAN NUMERAL ZERO;oONE;oTWO;pHREE;oFOUR;pIVE;oSIX;pEVEN;oEIGHT;oNINE;oTEN
oELEVEN;oTWELVE;pHIRTEEN;oFOURTEEN;pIFTEEN;oSIXTEEN;pEVENTEEN;oEIGHTEEN;oNINETEEN
DbONOGRAM FOR EARTH;aDIGRAM FOR HEAVENLY EARTH;mUMAN EARTH;lEARTHLY HEAVEN;uUMAN;q
aTETRAGRAM FOR CENTRE;oFULL CIRCLE;oMIRED;oBARRIER;oKEEPING SMALL;oCONTRARIETY;oASCENT;oOPPOSITION
oBRANCHING OUT;oDEFECTIVENESS OR DISTORTION;pIVERGENCE;oYOUTHFULNESS;oINCREASE;oPENETRATION;oREACH
oCONTACT;oHOLDING BACK;oWAITING;oFOLLOWING;oADVANCE;oRELEASE;qSISTANCE;oEASE;oJOY;oCONTENTION
oENDEAVOUR;oDUTIES;oCHANGE;oDECISIVENESS;oBOLD RESOLUTION;oPACKING;oLEGION;oCLOSENESS;oKINSHIP
oGATHERING;oSTRENGTH;oPURITY;oFULLNESS;oRESIDENCE;oLAW OR MODEL;oRESPONSE;oGOING TO MEET
oENCOUNTERS;oSTOVE;oGREATNESS;oENLARGEMENT;oPATTERN;oRITUAL;oFLIGHT;oVASTNESS OR WASTING;oCONSTANCY
oMEASURE;oETERNITY;oUNITY;oDIMINISHMENT;oCLOSED MOUTH;oGUARDEDNESS;pATHERING IN;oMASSING
oACCUMULATION;oEMBELLISHMENT;oDOUBT;oWATCH;oSINKING;oINNER;oDEPARTURE;pARKENING;pIMMING;oEXHAUSTION
oSEVERANCE;pTOPPAGE;oHARDNESS;oCOMPLETION;pLOSURE;oFAILURE;oAGGRAVATION;oCOMPLIANCE;oON THE VERGE
oDIFFICULTIES;oLABOURING;oFOSTERING;AaCOUNTING ROD UNIT DIGIT ONE;yTWO;zaHREE;yFOUR;zaIVE;ySIX
zaEVEN;yEIGHT;yNINE;nTENS DIGIT ONE;yTWO;zaHREE;yFOUR;zaIVE;ySIX;zaEVEN;yEIGHT;yNINE
aIDEOGRAPHIC TALLY MARK ONE;xTWO;yHREE;xFOUR;yIVE;aTALLY MARK ONE;lFIVE
88aMATHEMATICAL BOLD CAPITAL A;zbB;zbC;zbD;zbE;zbF;zbG;zbH;zbI;zbJ;zbK;zbL;zbM;zbN;zbO;zbP;zbQ;zbR
zbS;zbT;zbU;zbV;zbW;zbX;zbY;zbZ;sSMALL A;yB;yC;yD;yE;yF;yG;yH;yI;yJ;yK;yL;yM;yN;yO;yP;yQ;yR;yS;yT
yU;yV;yW;yX;yY;yZ;nITALIC CAPITAL A;zdB;zdC;zdD;zdE;zdF;zdG;zdH;zdI;zdJ;zdK;zdL;zdM;zdN;zdO;zdP;zdQ
zdR;zdS;zdT;zdU;zdV;zdW;zdX;zdY;zdZ;uSMALL A;zbB;zbC;zbD;zbE;zbF;zbG;2zbI;zbJ;zbK;zbL;zbM;zbN;zbO
zbP;zbQ;zbR;zbS;zbT;zbU;zbV;zbW;zbX;zbY;zbZ;nBOLD ITALIC CAPITAL A;ziB;ziC;ziD;ziE;ziF;ziG;ziH;ziI
ziJ;ziK;ziL;ziM;ziN;ziO;ziP;ziQ;ziR;ziS;ziT;ziU;ziV;ziW;ziX;ziY;ziZ;zaSMALL A;zgB;zgC;zgD;zgE;zgF
zgG;zgH;zgI;zgJ;zgK;zgL;zgM;zgN;zgO;zgP;zgQ;zgR;zgS;zgT;zgU;zgV;zgW;zgX;zgY;zgZ;nSCRIPT CAPITAL A
2zdC;zdD;3zdG;3zdJ;zdK;3zdN;zdO;zdP;zdQ;2zdS;zdT;zdU;zdV;zdW;zdX;zdY;zdZ;uSMALL A;zbB;zbC;zbD;2zbF
2zbH;zbI;zbJ;zbK;zbL;zbM;zbN;2zbP;zbQ;zbR;zbS;zbT;zbU;zbV;zbW;zbX;zbY;zbZ;nBOLD SCRIPT CAPITAL A
ziB;ziC;ziD;ziE;ziF;ziG;ziH;ziI;ziJ;ziK;ziL;ziM;ziN;ziO;ziP;ziQ;ziR;ziS;ziT;ziU;ziV;ziW;ziX;ziY;ziZ
zaSMALL A;zgB;zgC;zgD;zgE;zgF;zgG;zgH;zgI;zgJ;zgK;zgL;zgM;zgN;zgO;zgP;zgQ;zgR;zgS;zgT;zgU;zgV;zgW
zgX;zgY;zgZ;nFRAKTUR CAPITAL A;zeB;2zeD;zeE;zeF;zeG;3zeJ;zeK;zeL;zeM;zeN;zeO;zeP;zeQ;2zeS;zeT;zeU
zeV;zeW;zeX;zeY;2vSMALL A;zcB;zcC;zcD;zcE;zcF;zcG;zcH;zcI;zcJ;zcK;zcL;zcM;zcN;zcO;zcP;zcQ;zcR;zcS
zcT;zcU;zcV;zcW;zcX;zcY;zcZ;nDOUBLE-STRUCK CAPITAL A;zkB;2zkD;zkE;zkF;zkG;2zkI;zkJ;zkK;zkL;zkM;2zkO
4zkS;zkT;zkU;zkV;zkW;zkX;zkY;2zcSMALL A;ziB;ziC;ziD;ziE;ziF;ziG;ziH;ziI;ziJ;ziK;ziL;ziM;ziN;ziO;ziP
ziQ;ziR;ziS;ziT;ziU;ziV;ziW;ziX;ziY;ziZ;nBOLD FRAKTUR CAPITAL A;zjB;zjC;zjD;zjE;zjF;zjG;zjH;zjI;zjJ
zjK;zjL;zjM;zjN;zjO;zjP;zjQ;zjR;zjS;zjT;zjU;zjV;zjW;zjX;zjY;zjZ;zbSMALL A;zhB;zhC;zhD;zhE;zhF;zhG
zhH;zhI;zhJ;zhK;zhL;zhM;zhN;zhO;zhP;zhQ;zhR;zhS;zhT;zhU;zhV;zhW;zhX;zhY;zhZ;nSANS-SERIF CAPITAL A
zhB;zhC;zhD;zhE;zhF;zhG;zhH;zhI;zhJ;zhK;zhL;zhM;zhN;zhO;zhP;zhQ;zhR;zhS;zhT;zhU;zhV;zhW;zhX;zhY;zhZ
ySMALL A;zfB;zfC;zfD;zfE;zfF;zfG;zfH;zfI;zfJ;zfK;zfL;zfM;zfN;zfO;zfP;zfQ;zfR;zfS;zfT;zfU;zfV;zfW
zfX;zfY;zfZ;yBOLD CAPITAL A;zmB;zmC;zmD;zmE;zmF;zmG;zmH;zmI;zmJ;zmK;zmL;zmM;zmN;zmO;zmP;zmQ;zmR;zmS
zmT;zmU;zmV;zmW;zmX;zmY;zmZ;zeSMALL A;zkB;zkC;zkD;zkE;zkF;zkG;zkH;zkI;zkJ;zkK;zkL;zkM;zkN;zkO;zkP
zkQ;zkR;zkS;zkT;zkU;zkV;zkW;zkX;zkY;zkZ;yITALIC CAPITAL A;zoB;zoC;zoD;zoE;zoF;zoG;zoH;zoI;zoJ;zoK
zoL;zoM;zoN;zoO;zoP;zoQ;zoR;zoS;zoT;zoU;zoV;zoW;zoX;zoY;zoZ;zgSMALL A;zmB;zmC;zmD;zmE;zmF;zmG;zmH
zmI;zmJ;zmK;zmL;zmM;zmN;zmO;zmP;zmQ;zmR;zmS;zmT;zmU;zmV;zmW;zmX;zmY;zmZ;yBOLD ITALIC CAPITAL A;ztB
ztC;ztD;ztE;ztF;ztG;ztH;ztI;ztJ;ztK;ztL;ztM;ztN;ztO;ztP;ztQ;ztR;ztS;ztT;ztU;ztV;ztW;ztX;ztY;ztZ
zlSMALL A;zrB;zrC;zrD;zrE;zrF;zrG;zrH;zrI;zrJ;zrK;zrL;zrM;zrN;zrO;zrP;zrQ;zrR;zrS;zrT;zrU;zrV;zrW
zrX;zrY;zrZ;nMONOSPACE CAPITAL A;zgB;zgC;zgD;zgE;zgF;zgG;zgH;zgI;zgJ;zgK;zgL;zgM;zgN;zgO;zgP;zgQ
zgR;zgS;zgT;zgU;zgV;zgW;zgX;zgY;zgZ;xSMALL A;zeB;zeC;zeD;zeE;zeF;zeG;zeH;zeI;zeJ;zeK;zeL;zeM;zeN
zeO;zeP;zeQ;zeR;zeS;zeT;zeU;zeV;zeW;zeX;zeY;zeZ;nITALIC SMALL DOTLESS I;zjJ;3nBOLD CAPITAL ALPHA
zbBETA;zbGAMMA;zbDELTA;zbEPSILON;zbZETA;zbETA;zbTHETA;zbIOTA;zbKAPPA;zbLAMDA;zbMU;zbNU;zbXI
zbOMICRON;zbPI;zbRHO;zbTHETA SYMBOL;zbSIGMA;zbTAU;zbUPSILON;zbPHI;zbCHI;zbPSI;zbOMEGA;sNABLA
sSMALL ALPHA;yBETA;yGAMMA;yDELTA;yEPSILON;yZETA;yETA;yTHETA;yIOTA;yKAPPA;yLAMDA;yMU;yNU;yXI
yOMICRON;yPI;yRHO;yFINAL SIGMA;ySIGMA;yTAU;yUPSILON;yPHI;yCHI;yPSI;yOMEGA;sPARTIAL DIFFERENTIAL
sEPSILON SYMBOL;sTHETA SYMBOL;sKAPPA SYMBOL;sPHI SYMBOL;sRHO SYMBOL;sPI SYMBOL
nITALIC CAPITAL ALPHA;zdBETA;zdGAMMA;zdDELTA;zdEPSILON;zdZETA;zdETA;zdTHETA;zdIOTA;zdKAPPA;zdLAMDA
zdMU;zdNU;zdXI;zdOMICRON;zdPI;zdRHO;zdTHETA SYMBOL;zdSIGMA;zdTAU;zdUPSILON;zdPHI;zdCHI;zdPSI
zdOMEGA;uNABLA;uSMALL ALPHA;zbBETA;zbGAMMA;zbDELTA;zbEPSILON;zbZETA;zbETA;zbTHETA;zbIOTA;zbKAPPA
zbLAMDA;zbMU;zbNU;zbXI;zbOMICRON;zbPI;zbRHO;zbFINAL SIGMA;zbSIGMA;zbTAU;zbUPSILON;zbPHI;zbCHI;zbPSI
zbOMEGA;uPARTIAL DIFFERENTIAL;uEPSILON SYMBOL;uTHETA SYMBOL;uKAPPA SYMBOL;uPHI SYMBOL;uRHO SYMBOL
uPI SYMBOL;nBOLD ITALIC CAPITAL ALPHA;ziBETA;ziGAMMA;ziDELTA;ziEPSILON;ziZETA;ziETA;ziTHETA;ziIOTA
ziKAPPA;ziLAMDA;ziMU;ziNU;ziXI;ziOMICRON;ziPI;ziRHO;ziTHETA SYMBOL;ziSIGMA;ziTAU;ziUPSILON;ziPHI
ziCHI;ziPSI;ziOMEGA;zaNABLA;zaSMALL ALPHA;zgBETA;zgGAMMA;zgDELTA;zgEPSILON;zgZETA;zgETA;zgTHETA
zgIOTA;zgKAPPA;zgLAMDA;zgMU;zgNU;zgXI;zgOMICRON;zgPI;zgRHO;zgFINAL SIGMA;zgSIGMA;zgTAU;zgUPSILON
zgPHI;zgCHI;zgPSI;zgOMEGA;zaPARTIAL DIFFERENTIAL;zaEPSILON SYMBOL;zaTHETA SYMBOL;zaKAPPA SYMBOL
zaPHI SYMBOL;zaRHO SYMBOL;zaPI SYMBOL;nSANS-SERIF BOLD CAPITAL ALPHA;zmBETA;zmGAMMA;zmDELTA
zmEPSILON;zmZETA;zmETA;zmTHETA;zmIOTA;zmKAPPA;zmLAMDA;zmMU;zmNU;zmXI;zmOMICRON;zmPI;zmRHO
zmTHETA SYMBOL;zmSIGMA;zmTAU;zmUPSILON;zmPHI;zmCHI;zmPSI;zmOMEGA;zeNABLA;zeSMALL ALPHA;zkBETA
zkGAMMA;zkDELTA;zkEPSILON;zkZETA;zkETA;zkTHETA;zkIOTA;zkKAPPA;zkLAMDA;zkMU;zkNU;zkXI;zkOMICRON;zkPI
zkRHO;zkFINAL SIGMA;zkSIGMA;zkTAU;zkUPSILON;zkPHI;zkCHI;zkPSI;zkOMEGA;zePARTIAL DIFFERENTIAL
zeEPSILON SYMBOL;zeTHETA SYMBOL;zeKAPPA SYMBOL;zePHI SYMBOL;zeRHO SYMBOL;zePI SYMBOL
zeITALIC CAPITAL ALPHA;ztBETA;ztGAMMA;ztDELTA;ztEPSILON;ztZETA;ztETA;ztTHETA;ztIOTA;ztKAPPA;ztLAMDA
ztMU;ztNU;ztXI;ztOMICRON;ztPI;ztRHO;ztTHETA SYMBOL;ztSIGMA;ztTAU;ztUPSILON;ztPHI;ztCHI;ztPSI
ztOMEGA;zlNABLA;zlSMALL ALPHA;zrBETA;zrGAMMA;zrDELTA;zrEPSILON;zrZETA;zrETA;zrTHETA;zrIOTA;zrKAPPA
zrLAMDA;zrMU;zrNU;zrXI;zrOMICRON;zrPI;zrRHO;zrFINAL SIGMA;zrSIGMA;zrTAU;zrUPSILON;zrPHI;zrCHI;zrPSI
zrOMEGA;zlPARTIAL DIFFERENTIAL;zlEPSILON SYMBOL;zlTHETA SYMBOL;zlKAPPA SYMBOL;zlPHI SYMBOL
zlRHO SYMBOL;zlPI SYMBOL;nBOLD CAPITAL DIGAMMA;sSMALL DIGAMMA;3sDIGIT ZERO;yONE;yTWO;zaHREE;yFOUR
zaIVE;ySIX;zaEVEN;yEIGHT;yNINE;nDOUBLE-STRUCK DIGIT ZERO;ziONE;ziTWO;zjHREE;ziFOUR;zjIVE;ziSIX
zjEVEN;ziEIGHT;ziNINE;nSANS-SERIF DIGIT ZERO;zfONE;zfTWO;zgHREE;zfFOUR;zgIVE;zfSIX;zgEVEN;zfEIGHT
zfNINE;yBOLD DIGIT ZERO;zkONE;zkTWO;zlHREE;zkFOUR;zlIVE;zkSIX;zlEVEN;zkEIGHT;zkNINE
nMONOSPACE DIGIT ZERO;zeONE;zeTWO;zfHREE;zeFOUR;zfIVE;zeSIX;zfEVEN;zeEIGHT;zeNINE
aSIGNWRITING HAND-FIST INDEX;rCIRCLE INDEX;sUP INDEX;rOVAL INDEX;rHINGE INDEX;rANGLE INDEX
rFIST INDEX BENT;rCIRCLE INDEX BENT;rFIST THUMB UNDER INDEX BENT;wINDEX RAISED KNUCKLE;zdCUPPED
zdHINGED;zj LOW;rCIRCLE INDEX HINGE;rFIST INDEX MIDDLE;rCIRCLE INDEX MIDDLE;rFIST INDEX MIDDLE BENT
zkRAISED KNUCKLES;zkHINGED;zdUP MIDDLE HINGED;zdHINGED MIDDLE UP;zdMIDDLE CONJOINED;zt INDEX BENT
zuMIDDLE BENT;zuCUPPED;zuHINGED;zlROSSED;rCIRCLE INDEX MIDDLE CROSSED;rFIST MIDDLE BENT OVER INDEX
wINDEX BENT OVER MIDDLE;zdMIDDLE THUMB;rCIRCLE INDEX MIDDLE THUMB
rFIST INDEX MIDDLE STRAIGHT THUMB BENT;zkBENT THUMB STRAIGHT;zkTHUMB BENT
zkHINGED SPREAD THUMB SIDE;zdUP MIDDLE HINGED THUMB SIDE;zz CONJOINED;zdHINGED MIDDLE UP THUMB SIDE
zdMIDDLE UP SPREAD THUMB FORWARD;zkTHUMB CUPPED;zrIRCLED;zqHOOKED;zrINGED
wTHUMB BETWEEN INDEX MIDDLE STRAIGHT;wINDEX MIDDLE CONJOINED THUMB SIDE;zz SIDE CONJOINED
zz SIDE BENT;wMIDDLE THUMB HOOKED INDEX UP;wINDEX THUMB HOOKED MIDDLE UP
zdMIDDLE CONJOINED HINGED THUMB SIDE;zlROSSED THUMB SIDE;zlONJOINED THUMB FORWARD
zuCUPPED THUMB FORWARD;wMIDDLE THUMB CUPPED INDEX UP;wINDEX THUMB CUPPED MIDDLE UP
wMIDDLE THUMB CIRCLED INDEX UP;zyHINGED;wINDEX THUMB ANGLED OUT MIDDLE UP;zqIN MIDDLE UP
zjCIRCLED MIDDLE UP;zdMIDDLE THUMB CONJOINED HINGED;zqANGLED OUT;zw
wMIDDLE THUMB ANGLED OUT INDEX UP;zzX CROSSED;zrINDEX UP;wINDEX THUMB HOOKED MIDDLE HINGED
sLAT FOUR FINGERS;zj BENT;zkHINGED;zkCONJOINED;zt SPLIT;rCLAW FOUR FINGERS CONJOINED
rFIST FOUR FINGERS CONJOINED BENT;rHINGE FOUR FINGERS CONJOINED;rFLAT FIVE FINGERS SPREAD
wHEEL FIVE FINGERS SPREAD;wFIVE FINGERS SPREAD FOUR BENT;wHEEL FIVE FINGERS SPREAD FOUR BENT
wFIVE FINGERS SPREAD BENT;wHEEL FIVE FINGERS SPREAD BENT;wFIVE FINGERS SPREAD THUMB FORWARD
rCUP FIVE FINGERS SPREAD;zp OPEN;rHINGE FIVE FINGERS SPREAD OPEN;rOVAL FIVE FINGERS SPREAD
rFLAT FIVE FINGERS SPREAD HINGED;zx THUMB SIDE;zyNO THUMB;v;v BETWEEN PALM FACINGS;wHEEL
wTHUMB SIDE;wHEEL THUMB SIDE;wTHUMB BENT;zdFORWARD;wSPLIT INDEX THUMB SIDE;zdCENTRE;zj THUMB SIDE
zu BENT;zdLITTLE;rCLAW;v THUMB SIDE;wNO THUMB;wTHUMB FORWARD;rHOOK CURLICUE;v;rCUP OPEN;u
u OPEN THUMB SIDE;vTHUMB SIDE;vOPEN NO THUMB;vNO THUMB;vOPEN THUMB FORWARD;vTHUMB FORWARD
tRLICUE OPEN;za;sIRCLE;rOVAL;v THUMB SIDE;wNO THUMB;wTHUMB FORWARD;rHINGE OPEN;zc THUMB FORWARD;w
w SMALL;xOPEN THUMB SIDE;xTHUMB SIDE;xOPEN NO THUMB;xNO THUMB;xTHUMB SIDE TOUCHING INDEX
zeBETWEEN MIDDLE RING;rANGLE;rFIST INDEX MIDDLE RING;rCIRCLE INDEX MIDDLE RING
rHINGE INDEX MIDDLE RING;rANGLE INDEX MIDDLE RING;rHINGE LITTLE;rFIST INDEX MIDDLE RING BENT
zpCONJOINED;rHINGE INDEX MIDDLE RING CONJOINED;rFIST LITTLE DOWN;zi RIPPLE STRAIGHT;zqCURVED
zjOTHERS CIRCLED;zeUP;wTHUMB UNDER LITTLE UP;rCIRCLE LITTLE UP;rOVAL LITTLE UP;rANGLE LITTLE UP
rFIST LITTLE RAISED KNUCKLE;zeBENT;zeTOUCHES THUMB;zfHUMB;rHINGE LITTLE THUMB
rFIST LITTLE INDEX THUMB;rHINGE LITTLE INDEX THUMB;rANGLE LITTLE INDEX THUMB INDEX THUMB OUT;zzUMB
rFIST LITTLE INDEX;rCIRCLE LITTLE INDEX;rHINGE LITTLE INDEX;rANGLE LITTLE INDEX
rFIST INDEX MIDDLE LITTLE;rCIRCLE INDEX MIDDLE LITTLE;rHINGE INDEX MIDDLE LITTLE;xRING
rANGLE INDEX MIDDLE LITTLE;rFIST INDEX MIDDLE CROSS LITTLE;rCIRCLE INDEX MIDDLE CROSS LITTLE
rFIST RING DOWN;rHINGE RING DOWN INDEX THUMB HOOK MIDDLE;rANGLE RING DOWN MIDDLE THUMB INDEX CROSS
rFIST RING UP;zcRAISED KNUCKLE;zcLITTLE;rCIRCLE RING LITTLE;rOVAL RING LITTLE;rANGLE RING LITTLE
rFIST RING MIDDLE;zi CONJOINED;zjRAISED KNUCKLES;zcINDEX;zcTHUMB;rHOOK RING THUMB
rFIST INDEX RING LITTLE;rCIRCLE INDEX RING LITTLE;sURLICUE INDEX RING LITTLE ON
rHOOK INDEX RING LITTLE OUT;zpIN;zpUNDER;rCUP INDEX RING LITTLE;rHINGE INDEX RING LITTLE
rANGLE INDEX RING LITTLE OUT;zp;rFIST MIDDLE DOWN;rHINGE MIDDLE;rFIST MIDDLE UP;rCIRCLE MIDDLE UP
rFIST MIDDLE RAISED KNUCKLE;zeUP THUMB SIDE;rHOOK MIDDLE THUMB;rFIST MIDDLE THUMB LITTLE;zeLITTLE
zeRING LITTLE;rCIRCLE MIDDLE RING LITTLE;sURLICUE MIDDLE RING LITTLE ON;tP MIDDLE RING LITTLE
rHINGE MIDDLE RING LITTLE;rANGLE MIDDLE RING LITTLE OUT;zrIN;zq;rCIRCLE MIDDLE RING LITTLE BENT
sLAW MIDDLE RING LITTLE CONJOINED;zz SIDE;rHOOK MIDDLE RING LITTLE CONJOINED OUT;zz IN;zz
sINGE INDEX HINGED;rFIST INDEX THUMB SIDE;rHINGE INDEX THUMB SIDE
rFIST INDEX THUMB SIDE THUMB DIAGONAL;zuCONJOINED;zuBENT;zoINDEX BENT;zoBOTH BENT;zoINDEX HINGE
zjFORWARD INDEX STRAIGHT;zxBENT;zjHOOK;zjCURLICUE;zmVE THUMB INSIDE
rCLAW INDEX THUMB CURVE THUMB INSIDE;rFIST INDEX THUMB CURVE THUMB UNDER;zkIRCLE;rCUP INDEX THUMB
zh OPEN;rHINGE INDEX THUMB OPEN;zkLARGE;zj;zj SMALL;rANGLE INDEX THUMB OUT;zkIN;zj;rFIST THUMB
zc HEEL;zdSIDE DIAGONAL;ziCONJOINED;ziBENT;zdFORWARD;zdBETWEEN INDEX MIDDLE;zlMIDDLE RING
zlRING LITTLE;zdUNDER TWO FINGERS;zdOVER TWO FINGERS;zdUNDER THREE FINGERS;zjFOUR FINGERS
zdOVER FOUR RAISED KNUCKLES;v;v HEEL;mTOUCH SINGLE;sMULTIPLE;sBETWEEN;mGRASP SINGLE;sMULTIPLE
sBETWEEN;mSTRIKE SINGLE;tMULTIPLE;tBETWEEN;mBRUSH SINGLE;sMULTIPLE;sBETWEEN;mRUB SINGLE;qMULTIPLE
qBETWEEN;mSURFACE SYMBOLS;uBETWEEN;nQUEEZE LARGE SINGLE;uSMALL SINGLE;uLARGE MULTIPLE
uSMALL MULTIPLE;vEQUENTIAL;mFLICK LARGE SINGLE;sSMALL SINGLE;sLARGE MULTIPLE;sSMALL MULTIPLE
tEQUENTIAL;mSQUEEZE FLICK ALTERNATING;mMOVEMENT-HINGE UP DOWN LARGE;zkSMALL;zfSEQUENTIAL
zcDOWN SEQUENTIAL;zcUP DOWN ALTERNATING LARGE;zwSMALL;zcSIDE TO SIDE SCISSORS
vWALLPLANE FINGER CONTACT;vFLOORPLANE FINGER CONTACT;vWALLPLANE SINGLE STRAIGHT SMALL;zwMEDIUM
zwLARGE;zzGEST;znWRIST FLEX;zgDOUBLE STRAIGHT;znWRIST FLEX;znALTERNATING;zy WRIST FLEX;zgCROSS
zgTRIPLE STRAIGHT MOVEMENT;znWRIST FLEX;znALTERNATING;zy WRIST FLEX;zgBEND SMALL;zlMEDIUM;zlLARGE
zgCORNER SMALL;znMEDIUM;znLARGE;znROTATION;zhHECK SMALL;zmMEDIUM;zmLARGE;zgBOX SMALL;zkMEDIUM
zkLARGE;zgZIGZAG SMALL;znMEDIUM;znLARGE;zgPEAKS SMALL;zmMEDIUM;zmLARGE
mTRAVEL-WALLPLANE ROTATION-WALLPLANE SINGLE;zxDOUBLE;zxALTERNATING;znFLOORPLANE SINGLE;zyDOUBLE
zyALTERNATING;zeSHAKING;zeARM SPIRAL SINGLE;zpDOUBLE;zpTRIPLE;mMOVEMENT-DIAGONAL AWAY SMALL
zkMEDIUM;zkLARGE;zpST;zfTOWARDS SMALL;znMEDIUM;znLARGE;zsST;zfBETWEEN AWAY SMALL;zsMEDIUM;zsLARGE
zxST;znTOWARDS SMALL;zvMEDIUM;zvLARGE;zzEST;vFLOORPLANE SINGLE STRAIGHT SMALL;zxMEDIUM;zxLARGE
zzRGEST;zoWRIST FLEX;zhDOUBLE STRAIGHT;zoWRIST FLEX;zoALTERNATING;zz WRIST FLEX;zhCROSS
zhTRIPLE STRAIGHT MOVEMENT;zoWRIST FLEX;zoALTERNATING MOVEMENT;zz WRIST FLEX;zhBEND;zhCORNER SMALL
zoMEDIUM;zoLARGE;ziHECK;zhBOX SMALL;zlMEDIUM;zlLARGE;zhZIGZAG SMALL;zoMEDIUM;zoLARGE;zhPEAKS SMALL
znMEDIUM;znLARGE;mTRAVEL-FLOORPLANE ROTATION-FLOORPLANE SINGLE;zzDOUBLE;zzALTERNATING
zoWALLPLANE SINGLE;zyDOUBLE;zyALTERNATING;zfSHAKING;mMOVEMENT-WALLPLANE CURVE QUARTER SMALL
zuMEDIUM;zuLARGE;zzST;zmHALF-CIRCLE SMALL;zyMEDIUM;zyLARGE;zzARGEST;zmTHREE-QUARTER CIRCLE SMALL
zz CIRCLE MEDIUM;zgHUMP SMALL;zlMEDIUM;zlLARGE;zgLOOP SMALL;zlMEDIUM;zlLARGE;zlSMALL DOUBLE
zgWAVE CURVE DOUBLE SMALL;zyMEDIUM;zyLARGE;zrTRIPLE SMALL;zyMEDIUM;zyLARGE;zgCURVE THEN STRAIGHT
zlD CROSS SMALL;ztMEDIUM;mROTATION-WALLPLANE SINGLE;zgDOUBLE;zgALTERNATE
mMOVEMENT-WALLPLANE SHAKING;zgCURVE HITTING FRONT WALL;zgHUMP HITTING FRONT WALL
zgLOOP HITTING FRONT WALL;zgWAVE HITTING FRONT WALL;mROTATION-WALLPLANE SINGLE HITTING FRONT WALL
zgDOUBLE HITTING FRONT WALL;zgALTERNATING HITTING FRONT WALL
mMOVEMENT-WALLPLANE CURVE HITTING CHEST;zgHUMP HITTING CHEST;zgLOOP HITTING CHEST
zgWAVE HITTING CHEST;mROTATION-WALLPLANE SINGLE HITTING CHEST;zgDOUBLE HITTING CHEST
zgALTERNATING HITTING CHEST;mMOVEMENT-WALLPLANE WAVE DIAGONAL PATH SMALL;zzMEDIUM;zzLARGE
vFLOORPLANE CURVE HITTING CEILING SMALL;zzING LARGE;zhHUMP HITTING CEILING SMALL DOUBLE
zzNG LARGE DOUBLE;zzNG SMALL TRIPLE;zzNG LARGE TRIPLE;zhLOOP HITTING CEILING SMALL SINGLE
zzNG LARGE SINGLE;zzNG SMALL DOUBLE;zzNG LARGE DOUBLE;zhWAVE HITTING CEILING SMALL;zzNG LARGE
mROTATION-FLOORPLANE SINGLE HITTING CEILING;zhDOUBLE HITTING CEILING;zhALTERNATING HITTING CEILING
mMOVEMENT-FLOORPLANE CURVE HITTING FLOOR SMALL;zzR LARGE;zhHUMP HITTING FLOOR SMALL DOUBLE
zz LARGE DOUBLE;zz TRIPLE SMALL TRIPLE;zz TRIPLE LARGE TRIPLE;zhLOOP HITTING FLOOR SMALL SINGLE
zz LARGE SINGLE;zz SMALL DOUBLE;zz LARGE DOUBLE;zhWAVE HITTING FLOOR SMALL;zz LARGE
mROTATION-FLOORPLANE SINGLE HITTING FLOOR;zhDOUBLE HITTING FLOOR;zhALTERNATING HITTING FLOOR
mMOVEMENT-FLOORPLANE CURVE SMALL;znMEDIUM;znLARGE;zsST;znCOMBINED;zhHUMP SMALL;zhLOOP SMALL
zhWAVE SNAKE;znMALL;zmLARGE;mROTATION-FLOORPLANE SINGLE;zhDOUBLE;zhALTERNATING
mMOVEMENT-FLOORPLANE SHAKING PARALLEL;vWALLPLANE ARM CIRCLE SMALL SINGLE;zrMEDIUM SINGLE
zrSMALL DOUBLE;zrMEDIUM DOUBLE;vFLOORPLANE ARM CIRCLE HITTING WALL SMALL SINGLE
zz WALL MEDIUM SINGLE;zz WALL LARGE SINGLE;zz WALL SMALL DOUBLE;zz WALL MEDIUM DOUBLE
zz WALL LARGE DOUBLE;vWALLPLANE WRIST CIRCLE FRONT SINGLE;zzDOUBLE
vFLOORPLANE WRIST CIRCLE HITTING WALL SINGLE;zzNG WALL DOUBLE;vWALLPLANE FINGER CIRCLES SINGLE
zvDOUBLE;vFLOORPLANE FINGER CIRCLES HITTING WALL SINGLE;zzTING WALL DOUBLE;mDYNAMIC ARROWHEAD SMALL
zfLARGE;uFAST;uSLOW;uTENSE;uRELAXED;uSIMULTANEOUS;zh ALTERNATING;uEVERY OTHER TIME;uGRADUAL;mHEAD
q RIM;rMOVEMENT-WALLPLANE STRAIGHT;zlTILT;zbFLOORPLANE STRAIGHT;zbWALLPLANE CURVE
zbFLOORPLANE CURVE;za CIRCLE;mFACE DIRECTION POSITION NOSE FORWARD TILTING;zqUP OR DOWN;zzN TILTING
mEYEBROWS STRAIGHT UP;zfNEUTRAL;zfDOWN;mDREAMY EYEBROWS NEUTRAL DOWN;zdDOWN NEUTRAL;zdUP NEUTRAL
zdNEUTRAL UP;mFOREHEAD NEUTRAL;vCONTACT;vWRINKLED;mEYES OPEN;rSQUEEZED;rCLOSED;p BLINK SINGLE
wMULTIPLE;pS HALF OPEN;rWIDE OPEN;rHALF CLOSED;rWIDENING MOVEMENT;p WINK;pLASHES UP;wDOWN
wFLUTTERING;pGAZE-WALLPLANE STRAIGHT;zn DOUBLE;zoALTERNATING;uFLOORPLANE STRAIGHT;zo DOUBLE
zpALTERNATING;uWALLPLANE CURVED;uFLOORPLANE CURVED;uWALLPLANE CIRCLING;mCHEEKS PUFFED;tNEUTRAL
tSUCKED;mTENSE CHEEKS HIGH;zaMIDDLE;zaLOW;mEARS;mNOSE NEUTRAL;rCONTACT;rWRINKLES;sIGGLES
mAIR BLOWING OUT;qSUCKING IN;qBLOW SMALL ROTATIONS;qSUCK SMALL ROTATIONS;mBREATH INHALE;tEXHALE
mMOUTH CLOSED NEUTRAL;zaFORWARD;zaCONTACT;sSMILE;x WRINKLED;yOPEN;sFROWN;x WRINKLED;yOPEN
sOPEN CIRCLE;xFORWARD;xWRINKLED;xOVAL;zc WRINKLED;zdYAWN;xRECTANGLE;zh WRINKLED;ziYAWN;sKISS
w FORWARD;xWRINKLED;sTENSE;x FORWARD;ySUCKED;mLIPS PRESSED TOGETHER;p LOWER OVER UPPER
qUPPER OVER LOWER;mMOUTH CORNERS;sWRINKLES SINGLE;zcDOUBLE;mTONGUE STICKING OUT FAR;tLICKING LIPS
tTIP BETWEEN LIPS;xTOUCHING INSIDE MOUTH;tINSIDE MOUTH RELAXED;tMOVES AGAINST CHEEK
tCENTRE STICKING OUT;zbINSIDE MOUTH;nEETH;r MOVEMENT;sON TONGUE;zc MOVEMENT;vLIPS;za MOVEMENT
sBITE LIPS;mMOVEMENT-WALLPLANE JAW;vFLOORPLANE JAW;mNECK;mHAIR;mEXCITEMENT;mSHOULDER HIP SPINE
zaPOSITIONS;mWALLPLANE SHOULDER HIP MOVE;mFLOORPLANE SHOULDER HIP MOVE;mSHOULDER TILTING FROM WAIST
mTORSO-WALLPLANE STRAIGHT STRETCH;zdCURVED BEND;sFLOORPLANE TWISTING
mUPPER BODY TILTING FROM HIP JOINTS;mLIMB COMBINATION;rLENGTH-1;y2;y3;y4;y5;y6;y7;mFINGER
mLOCATION-WALLPLANE SPACE;vFLOORPLANE SPACE;u HEIGHT;vWIDTH;vDEPTH;vHEAD NECK;vTORSO;vLIMBS DIGITS
mCOMMA;mFULL STOP;mSEMICOLON;mCOLON;mPARENTHESIS;10mFILL MODIFIER-2;zb3;zb4;zb5;zb6
2mROTATION MODIFIER-2;zf3;zf4;zf5;zf6;zf7;zf8;zf9;zf10;zg1;zg2;zg3;zg4;zg5;zg6
451aLATIN SMALL LETTER FENG DIGRAPH WITH TRILL;tREVERSED SCRIPT G;gLETTER SMALL CAPITAL TURNED G
gSMALL LETTER REVERSED K;gLETTER SMALL CAPITAL L WITH BELT;gSMALL LETTER LEZH WITH RETROFLEX HOOK
tTURNED Y WITH BELT;tREVERSED ENG;tTURNED R WITH LONG LEG AND RETROFLEX HOOK
u WITH HOOK AND RETROFLEX HOOK;gLETTER RETROFLEX CLICK WITH RETROFLEX HOOK
gSMALL LETTER ESH WITH DOUBLE BAR;zn AND CURL;tTURNED T WITH CURL
gLETTER INVERTED GLOTTAL STOP WITH CURL;nSTRETCHED C WITH CURL;oMALL CAPITAL TURNED K
gSMALL LETTER L WITH FISHHOOK;tDEZH DIGRAPH WITH PALATAL HOOK;tL WITH BELT AND PALATAL HOOK
tENG WITH PALATAL HOOK;tTURNED R WITH PALATAL HOOK;tR WITH FISHHOOK AND PALATAL HOOK
tTESH DIGRAPH WITH PALATAL HOOK;tEZH WITH PALATAL HOOK;tDEZH DIGRAPH WITH RETROFLEX HOOK
tI WITH STROKE AND RETROFLEX HOOK;tO WITH RETROFLEX HOOK;tTESH DIGRAPH WITH RETROFLEX HOOK
tC WITH RETROFLEX HOOK;tS WITH CURL;E2aCOMBINING GLAGOLITIC LETTER AZU;zdBUKY;zdVEDE;zdGLAGOLI
zdDOBRO;zdYESTU;zdZHIVETE;2zeEMLJA;zdIZHE;zeNITIAL IZHE;ze;zdDJERVI;zdKAKO;zdLJUDIJE;zdMYSLITE
zdNASHI;zdONU;zdPOKOJI;zdRITSI;zdSLOVO;zdTVRIDO;zdUKU;zdFRITU;zdHERU;3zdSHTA;zdTSI;zdCHRIVI;zdSHA
zdYERU;zgI;zeATI;2zeU;zdSMALL YUS;2zdYO;zdIOTATED SMALL YUS;zdBIG YUS;zdIOTATED BIG YUS;zdFITA
D6aNYIAKENG PUACHUE HMONG LETTER MA;zfTSA;zfNTA;zfTA;zfHA;zfNA;zfXA;zfNKA;zfCA;zfLA;zfSA;zfZA;zfNCA
zgTSA;zfKA;zfDA;zfNYA;zgRA;zfVA;zfNTXA;zfTXA;zfFA;zfRA;zfQA;zfYA;zfNQA;zfPA;zfXYA;zfNPA;zfDLA
zfNPLA;zfHAH;zfMLA;zfPLA;zfGA;zfRRA;zfA;zgA;zfI;zfU;zfO;zgO;zfE;zgE;zfW;4xTONE-B;zdM;zdJ;zdV;zdS
zdG;zdD;xSIGN FOR PERSON;zhTHING;zhLOCATION;zhANIMAL;zhINVERTEBRATE;zdXW XW;yYLLABLE LENGTHENER
3xDIGIT ZERO;zeONE;zeTWO;zfHREE;zeFOUR;zfIVE;zeSIX;zfEVEN;zeEIGHT;zeNINE;5xLOGOGRAM NYAJ
xCIRCLED CA;141aTOTO LETTER PA;mBA;mTA;mDA;mKA;mGA;mMA;mNA;nGA;mSA;mCHA;mYA;mWA;mJA;mHA;mRA;mLA;mI
mBREATHY I;mIU;mBREATHY IU;mU;mE;mBREATHY E;mEO;mBREATHY EO;mO;mAE;mBREATHY AE;mA;fSIGN RISING TONE
12aWANCHO LETTER AA;p;oBA;oCA;oDA;oGA;oYA;oPHA;oLA;oNA;oPA;oTA;pHA;oFA;oSA;pHA;oJA;oZA;oWA;oVA;oKA
oO;oAU;oRA;oMA;oKHA;oHA;oE;oI;oNGA;oU;oLLHA;oTSA;pRA;oONG;oAANG;pNG;oING;oON;oEN;oAAN;oNYA;oUEN
oYIH;hTONE TUP;pNI;mKOI;pNI;hDIGIT ZERO;nONE;nTWO;oHREE;nFOUR;oIVE;nSIX;oEVEN;nEIGHT;nNINE
6hNGUN SIGN;4E1aETHIOPIC SYLLABLE HHYA;vU;vI;vAA;vEE;w;vO;2sGURAGE HHWA;sHHWI;vEE;w;2sGURAGE MWI
zcEE;2zaQWI;zcEE;zd;zaBWI;zcEE;zaKWI;zcEE;zd;zaGWI;zcEE;zd;zaFWI;zcEE;zaPWI;zcEE
2aMENDE KIKAKUI SYLLABLE M001 KI;zb2 KA;zb3 KU;za65 KEE;za95 KE;za76 KOO;za48 KO;y179 KUA;y004 WI
zb5 WA;zb6 WU;y126 WEE;za18 WE;zb4 WOO;y045 WO;y194 WUI;za43 WEI;y061 WVI;za49 WVA;y139 WVE
y007 MIN;zb8 MAN;zb9 MUN;za59 MEN;za94 MON;y154 MUAN;za89 MUEN;y010 BI;zb1 BA;zb2 BU;y150 BEE
y097 BE;y103 BOO;za38 BO;y013 I;zb4 A;zb5 U;y163 EE;za00 E;za65 OO;za47 O;za37 EI;zb1 IN;zb5 IN
za95 AN;za78 EN;y019 SI;za20 SA;zb1 SU;y162 SEE;za16 SE;za36 SOO;y079 SO;y196 SIA;y025 LI;zb6 LA
zb7 LU;za84 LEE;za73 LE;za54 LOO;y153 LO;za10 LONG LE;y016 DI;zb7 DA;zb8 DU;za89 DEE;y180 DOO
zb1 DO;y022 TI;zb3 TA;zb4 TU;za91 TEE;za55 TE;y104 TOO;y069 TO;za28 JI;zb9 JA;za30 JU;y157 JEE
za13 JE;za60 JOO;y063 JO;y175 LONG JO;y031 YI;zb2 YA;zb3 YU;y109 YEE;y080 YE;y141 YOO;za21 YO
y034 FI;zb5 FA;zb6 FU;za78 FEE;zb5 FE;y133 FOO;y088 FO;y197 FUA;za01 FAN;y037 NIN;zb8 NAN;zb9 NUN
y117 NEN;za69 NON;za76 HI;y041 HA;y186 HU;y040 HEE;za96 HE;za42 HOO;y140 HO;y083 HEEI;y128 HOOU
y053 HIN;y130 HAN;y087 HUN;za52 HEN;y193 HON;y046 HUAN;za90 NGGI;za43 NGGA;za82 NGGU;y115 NGGEE
za46 NGGE;za56 NGGOO;za20 NGGO;za59 NGGAA;za27 NGGUA;y086 LONG NGGE;y106 LONG NGGOO;za83 LONG NGGO
za55 GI;za11 GA;za68 GU;za90 GEE;za66 GUEI;zb7 GUAN;za84 NGEN;y057 NGON;y177 NGUAN;y068 PI;za99 PA
za50 PU;za81 PEE;za51 PE;y102 POO;y066 PO;y145 MBI;y062 MBA;y122 MBU;y047 MBEE;y188 MBEE;y072 MBE
y172 MBOO;zb4 MBO;za87 MBUU;za61 LONG MBE;za05 LONG MBOO;za42 LONG MBO;za32 KPI;y092 KPA;za74 KPU
za44 KPEE;y108 KPE;za12 KPOO;za58 KPO;za24 GBI;y056 GBA;y148 GBU;y093 GBEE;y107 GBE;y071 GBOO
zb0 GBO;y171 RA;za23 NDI;zb9 NDA;zb5 NDU;za91 NDEE;za19 NDE;y067 NDOO;zb4 NDO;y152 NJA;za92 NJU
za49 NJEE;za34 NJOO;za82 VI;zb5 VA;za51 VU;za73 VEE;y085 VE;y144 VOO;y077 VO;y164 NYIN;y058 NYAN
y170 NYUN;y098 NYEN;za60 NYON;3oDIGIT ONE;uTWO;vHREE;uFOUR;vIVE;uSIX;vEVEN;uEIGHT;uNINE
oCOMBINING NUMBER TEENS;ziNS;zgHUNDREDS;zgTHOUSANDS;zhEN THOUSANDS;zgHUNDRED THOUSANDS;zgMILLIONS
2AaADLAM CAPITAL LETTER ALIF;vDAALI;vLAAM;vMIIM;vBA;vSINNYIIYHE;vPE;vBHE;vRA;vE;vFA;vI;vO;vDHA;vYHE
vWAW;vNUN;vKAF;vYA;vU;vJIIM;vCHI;vHA;vQAAF;vGA;vNYA;vTU;vNHA;vVA;vKHA;vGBE;vZAL;vKPO;vSHA
gSMALL LETTER ALIF;tDAALI;tLAAM;tMIIM;tBA;tSINNYIIYHE;tPE;tBHE;tRA;tE;tFA;tI;tO;tDHA;tYHE;tWAW;tNUN
tKAF;tYA;tU;tJIIM;tCHI;tHA;tQAAF;tGA;tNYA;tTU;tNHA;tVA;tKHA;tGBE;tZAL;tKPO;tSHA;gALIF LENGTHENER
gVOWEL LENGTHENER;gGEMINATION MARK;gHAMZA;gCONSONANT MODIFIER;gGEMINATE CONSONANT MODIFIER;gNUKTA
hASALIZATION MARK;5gDIGIT ZERO;mONE;mTWO;nHREE;mFOUR;nIVE;mSIX;nEVEN;mEIGHT;mNINE
5gINITIAL EXCLAMATION MARK;oQUESTION MARK;312aINDIC SIYAQ NUMBER ONE;tTWO;uHREE;tFOUR;uIVE;tSIX
uEVEN;tEIGHT;tNINE;tTEN;uWENTY;uHIRTY;tFORTY;uIFTY;tSIXTY;uEVENTY;tEIGHTY;tNINETY;tONE HUNDRED
tTWO HUNDRED;uHREE HUNDRED;tFOUR HUNDRED;uIVE HUNDRED;tSIX HUNDRED;uEVEN HUNDRED;tEIGHT HUNDRED
tNINE HUNDRED;tONE THOUSAND;tTWO THOUSAND;uHREE THOUSAND;tFOUR THOUSAND;uIVE THOUSAND;tSIX THOUSAND
uEVEN THOUSAND;tEIGHT THOUSAND;tNINE THOUSAND;tTEN THOUSAND;uWENTY THOUSAND;uHIRTY THOUSAND
tFORTY THOUSAND;uIFTY THOUSAND;tSIXTY THOUSAND;uEVENTY THOUSAND;tEIGHTY THOUSAND;tNINETY THOUSAND
tLAKH;xAN;mLAKH MARK;mNUMBER KAROR;yAN;tPREFIXED ONE;zdTWO;zeHREE;zdFOUR;zeIVE;zdSIX;zeEVEN;zdEIGHT
zdNINE;mPLACEHOLDER;mFRACTION ONE QUARTER;zaHALF;vTHREE QUARTERS;mRUPEE MARK;mNUMBER ALTERNATE ONE
zeTWO;zfEN THOUSAND;mALTERNATE LAKH MARK;4DaOTTOMAN SIYAQ NUMBER ONE;vTWO;wHREE;vFOUR;wIVE;vSIX
wEVEN;vEIGHT;vNINE;vTEN;wWENTY;wHIRTY;vFORTY;wIFTY;vSIXTY;wEVENTY;vEIGHTY;vNINETY;vONE HUNDRED
vTWO HUNDRED;wHREE HUNDRED;vFOUR HUNDRED;wIVE HUNDRED;vSIX HUNDRED;wEVEN HUNDRED;vEIGHT HUNDRED
vNINE HUNDRED;vONE THOUSAND;vTWO THOUSAND;wHREE THOUSAND;vFOUR THOUSAND;wIVE THOUSAND;vSIX THOUSAND
wEVEN THOUSAND;vEIGHT THOUSAND;vNINE THOUSAND;vTEN THOUSAND;wWENTY THOUSAND;wHIRTY THOUSAND
vFORTY THOUSAND;wIFTY THOUSAND;vSIXTY THOUSAND;wEVENTY THOUSAND;vEIGHTY THOUSAND;vNINETY THOUSAND
oMARRATAN;oALTERNATE NUMBER TWO;zhHREE;zgFOUR;zhIVE;zgSIX;zhEVEN;zgEIGHT;zgNINE;zgTEN
zgFOUR HUNDRED;zgSIX HUNDRED;zgTWO THOUSAND;zhEN THOUSAND;oFRACTION ONE HALF;zcSIXTH
C3aARABIC MATHEMATICAL ALEF;uBEH;uJEEM;uDAL;2uWAW;uZAIN;uHAH;uTAH;uYEH;uKAF;uLAM;uMEEM;uNOON;uSEEN
uAIN;uFEH;uSAD;uQAF;uREH;uSHEEN;uTEH;vHEH;uKHAH;uTHAL;uDAD;uZAH;uGHAIN;uDOTLESS BEH;zdNOON;zdFEH
zdQAF;2uINITIAL BEH;zdJEEM;2zdHEH;3zeAH;2zdYEH;zdKAF;zdLAM;zdMEEM;zdNOON;zdSEEN;zdAIN;zdFEH;zdSAD
zdQAF;2zdSHEEN;zdTEH;zeHEH;zdKHAH;2zdDAD;2zdGHAIN;7uTAILED JEEM;5zcHAH;2zcYEH;2zcLAM;2zcNOON;zcSEEN
zcAIN;2zcSAD;zcQAF;2zcSHEEN;3zcKHAH;2zcDAD;2zcGHAIN;2zcDOTLESS NOON;2zkQAF;2uSTRETCHED BEH;zfJEEM
2zfHEH;3zgAH;zfTAH;zfYEH;zfKAF;2zfMEEM;zfNOON;zfSEEN;zfAIN;zfFEH;zfSAD;zfQAF;2zfSHEEN;zfTEH;zgHEH
zfKHAH;2zfDAD;zfZAH;zfGHAIN;zfDOTLESS BEH;2znFEH;2uLOOPED ALEF;zcBEH;zcJEEM;zcDAL;zcHEH;zcWAW
zcZAIN;zcHAH;zcTAH;zcYEH;2zcLAM;zcMEEM;zcNOON;zcSEEN;zcAIN;zcFEH;zcSAD;zcQAF;zcREH;zcSHEEN;zcTEH
zdHEH;zcKHAH;zcTHAL;zcDAD;zcZAH;zcGHAIN;6uDOUBLE-STRUCK BEH;zjJEEM;zjDAL;2zjWAW;zjZAIN;zjHAH;zjTAH
zjYEH;2zjLAM;zjMEEM;zjNOON;zjSEEN;zjAIN;zjFEH;zjSAD;zjQAF;zjREH;zjSHEEN;zjTEH;zkHEH;zjKHAH;zjTHAL
zjDAD;zjZAH;zjGHAIN;35uOPERATOR MEEM WITH HAH WITH TATWEEL;zeHAH WITH DAL
10FaMAHJONG TILE EAST WIND;nSOUTH WIND;nWEST WIND;nNORTH WIND;nRED DRAGON;nGREEN DRAGON
nWHITE DRAGON;nONE OF CHARACTERS;nTWO OF CHARACTERS;oHREE OF CHARACTERS;nFOUR OF CHARACTERS
oIVE OF CHARACTERS;nSIX OF CHARACTERS;oEVEN OF CHARACTERS;nEIGHT OF CHARACTERS;nNINE OF CHARACTERS
nONE OF BAMBOOS;nTWO OF BAMBOOS;oHREE OF BAMBOOS;nFOUR OF BAMBOOS;oIVE OF BAMBOOS;nSIX OF BAMBOOS
oEVEN OF BAMBOOS;nEIGHT OF BAMBOOS;nNINE OF BAMBOOS;nONE OF CIRCLES;nTWO OF CIRCLES
oHREE OF CIRCLES;nFOUR OF CIRCLES;oIVE OF CIRCLES;nSIX OF CIRCLES;oEVEN OF CIRCLES
nEIGHT OF CIRCLES;nNINE OF CIRCLES;nPLUM;nORCHID;nBAMBOO;nCHRYSANTHEMUM;nSPRING;oUMMER;nAUTUMN
nWINTER;nJOKER;nBACK;5aDOMINO TILE HORIZONTAL BACK;w-00-00;zc1;zc2;zc3;zc4;zc5;zc6;y1-00;zc1;zc2
zc3;zc4;zc5;zc6;y2-00;zc1;zc2;zc3;zc4;zc5;zc6;y3-00;zc1;zc2;zc3;zc4;zc5;zc6;y4-00;zc1;zc2;zc3;zc4
zc5;zc6;y5-00;zc1;zc2;zc3;zc4;zc5;zc6;y6-00;zc1;zc2;zc3;zc4;zc5;zc6;mVERTICAL BACK;u-00-00;za1;za2
za3;za4;za5;za6;w1-00;za1;za2;za3;za4;za5;za6;w2-00;za1;za2;za3;za4;za5;za6;w3-00;za1;za2;za3;za4
za5;za6;w4-00;za1;za2;za3;za4;za5;za6;w5-00;za1;za2;za3;za4;za5;za6;w6-00;za1;za2;za3;za4;za5;za6
DaPLAYING CARD BACK;nACE OF SPADES;nTWO OF SPADES;oHREE OF SPADES;nFOUR OF SPADES;oIVE OF SPADES
nSIX OF SPADES;oEVEN OF SPADES;nEIGHT OF SPADES;nNINE OF SPADES;nTEN OF SPADES;nJACK OF SPADES
nKNIGHT OF SPADES;nQUEEN OF SPADES;nKING OF SPADES;3nACE OF HEARTS;nTWO OF HEARTS;oHREE OF HEARTS
nFOUR OF HEARTS;oIVE OF HEARTS;nSIX OF HEARTS;oEVEN OF HEARTS;nEIGHT OF HEARTS;nNINE OF HEARTS
nTEN OF HEARTS;nJACK OF HEARTS;nKNIGHT OF HEARTS;nQUEEN OF HEARTS;nKING OF HEARTS;nRED JOKER
2nACE OF DIAMONDS;nTWO OF DIAMONDS;oHREE OF DIAMONDS;nFOUR OF DIAMONDS;oIVE OF DIAMONDS
nSIX OF DIAMONDS;oEVEN OF DIAMONDS;nEIGHT OF DIAMONDS;nNINE OF DIAMONDS;nTEN OF DIAMONDS
nJACK OF DIAMONDS;nKNIGHT OF DIAMONDS;nQUEEN OF DIAMONDS;nKING OF DIAMONDS;nBLACK JOKER
2nACE OF CLUBS;nTWO OF CLUBS;oHREE OF CLUBS;nFOUR OF CLUBS;oIVE OF CLUBS;nSIX OF CLUBS
oEVEN OF CLUBS;nEIGHT OF CLUBS;nNINE OF CLUBS;nTEN OF CLUBS;nJACK OF CLUBS;nKNIGHT OF CLUBS
nQUEEN OF CLUBS;nKING OF CLUBS;nWHITE JOKER;nFOOL;nTRUMP-1;t2;t3;t4;t5;t6;t7;t8;t9;t10;u1;u2;u3;u4
u5;u6;u7;u8;u9;t20;u1;BaDIGIT ZERO FULL STOP;lCOMMA;gONE COMMA;gTWO COMMA;hHREE COMMA;gFOUR COMMA
hIVE COMMA;gSIX COMMA;hEVEN COMMA;gEIGHT COMMA;gNINE COMMA;cNGBAT CIRCLED SANS-SERIF DIGIT ZERO
iNEGATIVE CIRCLED SANS-SERIF DIGIT ZERO;aCIRCLED ZERO WITH SLASH;iANTICLOCKWISE ARROW
iDOLLAR SIGN WITH OVERLAID BACKSLASH;aPARENTHESIZED LATIN CAPITAL LETTER A;zkB;zkC;zkD;zkE;zkF;zkG
zkH;zkI;zkJ;zkK;zkL;zkM;zkN;zkO;zkP;zkQ;zkR;zkS;zkT;zkU;zkV;zkW;zkX;zkY;zkZ
aTORTOISE SHELL BRACKETED LATIN CAPITAL LETTER S;aCIRCLED ITALIC LATIN CAPITAL LETTER C;zlR;iCD;iWZ
bOPYLEFT SYMBOL;aSQUARED LATIN CAPITAL LETTER A;zeB;zeC;zeD;zeE;zeF;zeG;zeH;zeI;zeJ;zeK;zeL;zeM;zeN
zeO;zeP;zeQ;zeR;zeS;zeT;zeU;zeV;zeW;zeX;zeY;zeZ;iHV;iMV;iSD;jS;iPPV;iWC
aNEGATIVE CIRCLED LATIN CAPITAL LETTER A;znB;znC;znD;znE;znF;znG;znH;znI;znJ;znK;znL;znM;znN;znO
znP;znQ;znR;znS;znT;znU;znV;znW;znX;znY;znZ;aRAISED MC SIGN;iD SIGN;iR SIGN;aCIRCLED CC
j WITH OVERLAID BACKSLASH;iHUMAN FIGURE;aNEGATIVE SQUARED LATIN CAPITAL LETTER A;znB;znC;znD;znE
znF;znG;znH;znI;znJ;znK;znL;znM;znN;znO;znP;znQ;znR;znS;znT;znU;znV;znW;znX;znY;znZ
aCROSSED NEGATIVE SQUARED LATIN CAPITAL LETTER P;aNEGATIVE SQUARED IC;rPA;rSA;rAB;rWC;aSQUARE DJ
gD CL;jOOL;iFREE;iID;iNEW;jG;iOK;iSOS;iUP WITH EXCLAMATION MARK;iVS;iTHREE D;iSECOND SCREEN;iTWO K
iFOUR K;iEIGHT K;iFIVE POINT ONE;iSEVEN POINT ONE;iTWENTY-TWO POINT TWO;iSIXTY P
iONE HUNDRED TWENTY P;iLATIN SMALL LETTER D;iHC;jDR;jI-RES;iLOSSLESS;iSHV;iUHD;iVOD
aMASK WORK SYMBOL;39aREGIONAL INDICATOR SYMBOL LETTER A;ziB;ziC;ziD;ziE;ziF;ziG;ziH;ziI;ziJ;ziK;ziL
ziM;ziN;ziO;ziP;ziQ;ziR;ziS;ziT;ziU;ziV;ziW;ziX;ziY;ziZ;aSQUARE HIRAGANA HOKA;gD KATAKANA KOKO;rSA
EiCJK UNIFIED IDEOGRAPH-624B;zf5B57;zg3CC;iKATAKANA DE;iCJK UNIFIED IDEOGRAPH-4E8C;zf591A;zf89E3
zf5929;zf4EA4;zf6620;zf7121;zf6599;zf524D;zgF8C;zg18D;zf65B0;zf521D;zf7D42;zg51F;zf8CA9;zf58F0
zg439;zf6F14;zg295;zg355;zf4E00;zi9;zf904A;zf5DE6;zf4E2D;zf53F3;zf6307;zf8D70;zf6253;zf7981;zgA7A
zf5408;zf6E80;zg709;zi8;zf7533;zf5272;zg5B6;zf914D
5aTORTOISE SHELL BRACKETED CJK UNIFIED IDEOGRAPH-672C;zw4E09;zy8C;zw5B89;zw70B9;zw6253;zw76D7
zw52DD;zw6557;8aCIRCLED IDEOGRAPH ADVANTAGE;tCCEPT;FaROUNDED SYMBOL FOR FU;tLU;tSHOU;tXI;tSHUANGXI
tCAI;9BaCYCLONE;aFOGGY;aCLOSED UMBRELLA;aNIGHT WITH STARS;aSUNRISE OVER MOUNTAINS;h
aCITYSCAPE AT DUSK;aSUNSET OVER BUILDINGS;aRAINBOW;aBRIDGE AT NIGHT;aWATER WAVE;aVOLCANO;aMILKY WAY
aEARTH GLOBE EUROPE-AFRICA;mAMERICAS;nSIA-AUSTRALIA;aGLOBE WITH MERIDIANS;aNEW MOON SYMBOL
aWAXING CRESCENT MOON SYMBOL;aFIRST QUARTER MOON SYMBOL;aWAXING GIBBOUS MOON SYMBOL
aFULL MOON SYMBOL;aWANING GIBBOUS MOON SYMBOL;aLAST QUARTER MOON SYMBOL
aWANING CRESCENT MOON SYMBOL;aCRESCENT MOON;aNEW MOON WITH FACE;aFIRST QUARTER MOON WITH FACE
aLAST QUARTER MOON WITH FACE;aFULL MOON WITH FACE;aSUN WITH FACE;aGLOWING STAR;aSHOOTING STAR
aTHERMOMETER;aBLACK DROPLET;aWHITE SUN;j WITH SMALL CLOUD;kBEHIND CLOUD;w WITH RAIN
aCLOUD WITH RAIN;lSNOW;lLIGHTNING;lTORNADO;aFOG;aWIND BLOWING FACE;aHOT DOG;aTACO;aBURRITO
aCHESTNUT;aSEEDLING;aEVERGREEN TREE;aDECIDUOUS TREE;aPALM TREE;aCACTUS;aHOT PEPPER;aTULIP
aCHERRY BLOSSOM;aROSE;aHIBISCUS;aSUNFLOWER;aBLOSSOM;aEAR OF MAIZE;hRICE;aHERB;aFOUR LEAF CLOVER
aMAPLE LEAF;aFALLEN LEAF;aLEAF FLUTTERING IN WIND;aMUSHROOM;aTOMATO;aAUBERGINE;aGRAPES;aMELON
aWATERMELON;aTANGERINE;aLEMON;aBANANA;aPINEAPPLE;aRED APPLE;aGREEN APPLE;aPEAR;dCH;aCHERRIES
aSTRAWBERRY;aHAMBURGER;aSLICE OF PIZZA;aMEAT ON BONE;aPOULTRY LEG;aRICE CRACKER;fBALL;aCOOKED RICE
bURRY AND RICE;aSTEAMING BOWL;bPAGHETTI;aBREAD;aFRENCH FRIES;aROASTED SWEET POTATO;aDANGO;aODEN
aSUSHI;aFRIED SHRIMP;bISH CAKE WITH SWIRL DESIGN;aSOFT ICE CREAM;bHAVED ICE;aICE CREAM;aDOUGHNUT
aCOOKIE;bHOCOLATE BAR;bANDY;aLOLLIPOP;aCUSTARD;aHONEY POT;aSHORTCAKE;aBENTO BOX;aPOT OF FOOD
aCOOKING;aFORK AND KNIFE;aTEACUP WITHOUT HANDLE;aSAKE BOTTLE AND CUP;aWINE GLASS;aCOCKTAIL GLASS
aTROPICAL DRINK;aBEER MUG;aCLINKING BEER MUGS;aBABY BOTTLE;aFORK AND KNIFE WITH PLATE
aBOTTLE WITH POPPING CORK;aPOPCORN;aRIBBON;aWRAPPED PRESENT;aBIRTHDAY CAKE;aJACK-O-LANTERN
aCHRISTMAS TREE;aFATHER CHRISTMAS;bIREWORKS;i SPARKLER;aBALLOON;aPARTY POPPER;aCONFETTI BALL
aTANABATA TREE;aCROSSED FLAGS;aPINE DECORATION;aJAPANESE DOLLS;aCARP STREAMER;aWIND CHIME
aMOON VIEWING CEREMONY;aSCHOOL SATCHEL;aGRADUATION CAP;aHEART WITH TIP ON THE LEFT
aBOUQUET OF FLOWERS;aMILITARY MEDAL;aREMINDER RIBBON;aMUSICAL KEYBOARD WITH JACKS
aSTUDIO MICROPHONE;aLEVEL SLIDER;aCONTROL KNOBS;aBEAMED ASCENDING MUSICAL NOTES
hDESCENDING MUSICAL NOTES;aFILM FRAMES;aADMISSION TICKETS;aCAROUSEL HORSE;aFERRIS WHEEL
aROLLER COASTER;aFISHING POLE AND FISH;aMICROPHONE;bOVIE CAMERA;aCINEMA;aHEADPHONE;aARTIST PALETTE
aTOP HAT;aCIRCUS TENT;aTICKET;aCLAPPER BOARD;aPERFORMING ARTS;aVIDEO GAME;aDIRECT HIT;aSLOT MACHINE
aBILLIARDS;aGAME DIE;aBOWLING;aFLOWER PLAYING CARDS;aMUSICAL NOTE;cLTIPLE MUSICAL NOTES;aSAXOPHONE
aGUITAR;aMUSICAL KEYBOARD;aTRUMPET;aVIOLIN;aMUSICAL SCORE;aRUNNING SHIRT WITH SASH
aTENNIS RACQUET AND BALL;aSKI AND SKI BOOT;aBASKETBALL AND HOOP;aCHEQUERED FLAG;aSNOWBOARDER
aRUNNER;aSURFER;bPORTS MEDAL;aTROPHY;aHORSE RACING;aAMERICAN FOOTBALL;aRUGBY FOOTBALL;aSWIMMER
aWEIGHT LIFTER;aGOLFER;aRACING MOTORCYCLE;hCAR;aCRICKET BAT AND BALL;aVOLLEYBALL
aFIELD HOCKEY STICK AND BALL;aICE HOCKEY STICK AND PUCK;aTABLE TENNIS PADDLE AND BALL
aSNOW CAPPED MOUNTAIN;aCAMPING;aBEACH WITH UMBRELLA;bUILDING CONSTRUCTION;aHOUSE BUILDINGS
aCITYSCAPE;aDERELICT HOUSE BUILDING;aCLASSICAL BUILDING;aDESERT;g ISLAND;aNATIONAL PARK;aSTADIUM
aHOUSE BUILDING;gWITH GARDEN;aOFFICE BUILDING;aJAPANESE POST OFFICE;aEUROPEAN POST OFFICE;aHOSPITAL
aBANK;aAUTOMATED TELLER MACHINE;aHOTEL;aLOVE HOTEL;aCONVENIENCE STORE;aSCHOOL;aDEPARTMENT STORE
aFACTORY;aIZAKAYA LANTERN;aJAPANESE CASTLE;aEUROPEAN CASTLE;aWHITE PENNANT;aBLACK PENNANT
aWAVING WHITE FLAG;hBLACK FLAG;aROSETTE;aBLACK ROSETTE;aLABEL;aBADMINTON RACQUET AND SHUTTLECOCK
bOW AND ARROW;aAMPHORA;aEMOJI MODIFIER FITZPATRICK TYPE-1-2;zh3;zh4;zh5;zh6;aRAT;aMOUSE;aOX
aWATER BUFFALO;aCOW;aTIGER;aLEOPARD;aRABBIT;aCAT;aDRAGON;aCROCODILE;aWHALE;aSNAIL;dKE;aHORSE;aRAM
aGOAT;aSHEEP;aMONKEY;aROOSTER;aCHICKEN;aDOG;aPIG;aBOAR;aELEPHANT;aOCTOPUS;aSPIRAL SHELL;aBUG;aANT
aHONEYBEE;aLADY BEETLE;aFISH;aTROPICAL FISH;aBLOWFISH;aTURTLE;aHATCHING CHICK;aBABY CHICK
aFRONT-FACING BABY CHICK;aBIRD;aPENGUIN;aKOALA;aPOODLE;aDROMEDARY CAMEL;aBACTRIAN CAMEL;aDOLPHIN
aMOUSE FACE;aCOW FACE;aTIGER FACE;aRABBIT FACE;aCAT FACE;aDRAGON FACE;aSPOUTING WHALE;aHORSE FACE
aMONKEY FACE;aDOG FACE;aPIG FACE;aFROG FACE;aHAMSTER FACE;aWOLF FACE;aBEAR FACE;aPANDA FACE
bIG NOSE;bAW PRINTS;aCHIPMUNK;aEYES;d;bAR;aNOSE;aMOUTH;aTONGUE;aWHITE UP POINTING BACKHAND INDEX
gDOWN POINTING BACKHAND INDEX;gLEFT POINTING BACKHAND INDEX;gRIGHT POINTING BACKHAND INDEX
aFISTED HAND SIGN;aWAVING HAND SIGN;aOK HAND SIGN;aTHUMBS UP SIGN;hDOWN SIGN;aCLAPPING HANDS SIGN
aOPEN HANDS SIGN;aCROWN;aWOMANS HAT;aEYEGLASSES;aNECKTIE;aT-SHIRT;aJEANS;aDRESS;aKIMONO;aBIKINI
aWOMANS CLOTHES;aPURSE;aHANDBAG;aPOUCH;aMANS SHOE;aATHLETIC SHOE;aHIGH-HEELED SHOE;aWOMANS SANDAL
hBOOTS;aFOOTPRINTS;aBUST IN SILHOUETTE;eS IN SILHOUETTE;bOY;aGIRL;aMAN;aWOMAN;aFAMILY
aMAN AND WOMAN HOLDING HANDS;aTWO MEN HOLDING HANDS;eWOMEN HOLDING HANDS;aPOLICE OFFICER
aWOMAN WITH BUNNY EARS;aBRIDE WITH VEIL;aPERSON WITH BLOND HAIR;aMAN WITH GUA PI MAO;jTURBAN
aOLDER MAN;gWOMAN;aBABY;aCONSTRUCTION WORKER;aPRINCESS;aJAPANESE OGRE;jGOBLIN;aGHOST;aBABY ANGEL
aEXTRATERRESTRIAL ALIEN;aALIEN MONSTER;aIMP;aSKULL;aINFORMATION DESK PERSON;aGUARDSMAN;aDANCER
aLIPSTICK;aNAIL POLISH;aFACE MASSAGE;aHAIRCUT;aBARBER POLE;aSYRINGE;aPILL;aKISS MARK;aLOVE LETTER
aRING;aGEM STONE;aKISS;aBOUQUET;aCOUPLE WITH HEART;aWEDDING;aBEATING HEART;bROKEN HEART;aTWO HEARTS
aSPARKLING HEART;aGROWING HEART;aHEART WITH ARROW;aBLUE HEART;aGREEN HEART;aYELLOW HEART
aPURPLE HEART;aHEART WITH RIBBON;aREVOLVING HEARTS;aHEART DECORATION
aDIAMOND SHAPE WITH A DOT INSIDE;aELECTRIC LIGHT BULB;aANGER SYMBOL;aBOMB;aSLEEPING SYMBOL
aCOLLISION SYMBOL;aSPLASHING SWEAT SYMBOL;aDROPLET;bASH SYMBOL;aPILE OF POO;aFLEXED BICEPS
aDIZZY SYMBOL;aSPEECH BALLOON;aTHOUGHT BALLOON;aWHITE FLOWER;aHUNDRED POINTS SYMBOL;aMONEY BAG
aCURRENCY EXCHANGE;aHEAVY DOLLAR SIGN;aCREDIT CARD;aBANKNOTE WITH YEN SIGN;oDOLLAR SIGN;oEURO SIGN
oPOUND SIGN;aMONEY WITH WINGS;aCHART WITH UPWARDS TREND AND YEN SIGN;aSEAT;aPERSONAL COMPUTER
aBRIEFCASE;aMINIDISC;aFLOPPY DISK;aOPTICAL DISC;aDVD;aFILE FOLDER;aOPEN FILE FOLDER;aPAGE WITH CURL
fFACING UP;aCALENDAR;aTEAR-OFF CALENDAR;aCARD INDEX;bHART WITH UPWARDS TREND;lDOWNWARDS TREND
aBAR CHART;aCLIPBOARD;aPUSHPIN;aROUND PUSHPIN;aPAPERCLIP;aSTRAIGHT RULER;aTRIANGULAR RULER
aBOOKMARK TABS;aLEDGER;aNOTEBOOK;i WITH DECORATIVE COVER;aCLOSED BOOK;aOPEN BOOK;aGREEN BOOK
aBLUE BOOK;aORANGE BOOK;aBOOKS;aNAME BADGE;aSCROLL;aMEMO;aTELEPHONE RECEIVER;aPAGER;aFAX MACHINE
aSATELLITE ANTENNA;aPUBLIC ADDRESS LOUDSPEAKER;aCHEERING MEGAPHONE;aOUTBOX TRAY;aINBOX TRAY
aPACKAGE;aE-MAIL SYMBOL;aINCOMING ENVELOPE;aENVELOPE WITH DOWNWARDS ARROW ABOVE
aCLOSED MAILBOX WITH LOWERED FLAG;uRAISED FLAG;aOPEN MAILBOX WITH RAISED FLAG;sLOWERED FLAG
aPOSTBOX;eAL HORN;aNEWSPAPER;aMOBILE PHONE;m WITH RIGHTWARDS ARROW AT LEFT;aVIBRATION MODE
aMOBILE PHONE OFF;aNO MOBILE PHONES;aANTENNA WITH BARS;aCAMERA;g WITH FLASH;aVIDEO CAMERA
aTELEVISION;aRADIO;aVIDEOCASSETTE;aFILM PROJECTOR;aPORTABLE STEREO;bRAYER BEADS
aTWISTED RIGHTWARDS ARROWS;aCLOCKWISE RIGHTWARDS AND LEFTWARDS OPEN CIRCLE ARROWS
zzOWS WITH CIRCLED ONE OVERLAY;kDOWNWARDS AND UPWARDS OPEN CIRCLE ARROWS
aANTICLOCKWISE DOWNWARDS AND UPWARDS OPEN CIRCLE ARROWS;aLOW BRIGHTNESS SYMBOL
aHIGH BRIGHTNESS SYMBOL;aSPEAKER WITH CANCELLATION STROKE;h;h WITH ONE SOUND WAVE
nTHREE SOUND WAVES;aBATTERY;aELECTRIC PLUG;aLEFT-POINTING MAGNIFYING GLASS
aRIGHT-POINTING MAGNIFYING GLASS;aLOCK WITH INK PEN;aCLOSED LOCK WITH KEY;aKEY;aLOCK;aOPEN LOCK
aBELL;e WITH CANCELLATION STROKE;bOOKMARK;aLINK SYMBOL;aRADIO BUTTON
aBACK WITH LEFTWARDS ARROW ABOVE;aEND WITH LEFTWARDS ARROW ABOVE
aON WITH EXCLAMATION MARK WITH LEFT RIGHT ARROW ABOVE;aSOON WITH RIGHTWARDS ARROW ABOVE
aTOP WITH UPWARDS ARROW ABOVE;aNO ONE UNDER EIGHTEEN SYMBOL;aKEYCAP TEN
aINPUT SYMBOL FOR LATIN CAPITAL LETTERS;xSMALL LETTERS;rNUMBERS;rSYMBOLS;rLATIN LETTERS;aFIRE
aELECTRIC TORCH;aWRENCH;aHAMMER;aNUT AND BOLT;aHOCHO;aPISTOL;aMICROSCOPE;aTELESCOPE;aCRYSTAL BALL
aSIX POINTED STAR WITH MIDDLE DOT;aJAPANESE SYMBOL FOR BEGINNER;aTRIDENT EMBLEM
aBLACK SQUARE BUTTON;aWHITE SQUARE BUTTON;aLARGE RED CIRCLE;gBLUE CIRCLE;gORANGE DIAMOND
gBLUE DIAMOND;aSMALL ORANGE DIAMOND;gBLUE DIAMOND;aUP-POINTING RED TRIANGLE
aDOWN-POINTING RED TRIANGLE;aUP-POINTING SMALL RED TRIANGLE;aDOWN-POINTING SMALL RED TRIANGLE
aLOWER RIGHT SHADOWED WHITE CIRCLE;aUPPER RIGHT SHADOWED WHITE CIRCLE;aCIRCLED CROSS POMMEE
bROSS POMMEE WITH HALF-CIRCLE BELOW;m;aNOTCHED LEFT SEMICIRCLE WITH THREE DOTS
iRIGHT SEMICIRCLE WITH THREE DOTS;aSYMBOL FOR MARKS CHAPTER;aWHITE LATIN CROSS;aHEAVY LATIN CROSS
aCELTIC CROSS;aOM SYMBOL;aDOVE OF PEACE;aKAABA;aMOSQUE;aSYNAGOGUE;aMENORAH WITH NINE BRANCHES
aBOWL OF HYGIEIA;aCLOCK FACE ONE OCLOCK;lTWO OCLOCK;mHREE OCLOCK;lFOUR OCLOCK;mIVE OCLOCK
lSIX OCLOCK;mEVEN OCLOCK;lEIGHT OCLOCK;lNINE OCLOCK;lTEN OCLOCK;lELEVEN OCLOCK;lTWELVE OCLOCK
lONE-THIRTY;lTWO-THIRTY;mHREE-THIRTY;lFOUR-THIRTY;mIVE-THIRTY;lSIX-THIRTY;mEVEN-THIRTY
lEIGHT-THIRTY;lNINE-THIRTY;lTEN-THIRTY;lELEVEN-THIRTY;lTWELVE-THIRTY;aRIGHT SPEAKER
n WITH ONE SOUND WAVE;tTHREE SOUND WAVES;aBULLHORN;i WITH SOUND WAVES;aRINGING BELL;aBOOK;aCANDLE
aMANTELPIECE CLOCK;aBLACK SKULL AND CROSSBONES;aNO PIRACY;aHOLE;aMAN IN BUSINESS SUIT LEVITATING
aSLEUTH OR SPY;aDARK SUNGLASSES;aSPIDER;g WEB;aJOYSTICK;aMAN DANCING;aLEFT HAND TELEPHONE RECEIVER
aTELEPHONE RECEIVER WITH PAGE;aRIGHT HAND TELEPHONE RECEIVER;aWHITE TOUCHTONE TELEPHONE
aBLACK TOUCHTONE TELEPHONE;aTELEPHONE ON TOP OF MODEM;aCLAMSHELL MOBILE PHONE;aBACK OF ENVELOPE
aSTAMPED ENVELOPE;aENVELOPE WITH LIGHTNING;aFLYING ENVELOPE;aPEN OVER STAMPED ENVELOPE
aLINKED PAPERCLIPS;aBLACK PUSHPIN;aLOWER LEFT PENCIL;lBALLPOINT PEN;lFOUNTAIN PEN;lPAINTBRUSH
lCRAYON;bEFT WRITING HAND;aTURNED OK HAND SIGN;aRAISED HAND WITH FINGERS SPLAYED
bEVERSED RAISED HAND WITH FINGERS SPLAYED;jTHUMBS UP SIGN;qDOWN SIGN;jVICTORY HAND
jHAND WITH MIDDLE FINGER EXTENDED;bAISED HAND WITH PART BETWEEN MIDDLE AND RING FINGERS
aWHITE DOWN POINTING LEFT HAND INDEX;aSIDEWAYS WHITE LEFT POINTING INDEX;pRIGHT POINTING INDEX
jBLACK LEFT POINTING INDEX;pRIGHT POINTING INDEX;aBLACK LEFT POINTING BACKHAND INDEX
gRIGHT POINTING BACKHAND INDEX;aSIDEWAYS WHITE UP POINTING INDEX;pDOWN POINTING INDEX
jBLACK UP POINTING INDEX;pDOWN POINTING INDEX;aBLACK UP POINTING BACKHAND INDEX
gDOWN POINTING BACKHAND INDEX;gHEART;aDESKTOP COMPUTER;aKEYBOARD AND MOUSE
aTHREE NETWORKED COMPUTERS;aPRINTER;bOCKET CALCULATOR;aBLACK HARD SHELL FLOPPY DISK
aWHITE HARD SHELL FLOPPY DISK;aSOFT SHELL FLOPPY DISK;aTAPE CARTRIDGE;aWIRED KEYBOARD
aONE BUTTON MOUSE;aTWO BUTTON MOUSE;bHREE BUTTON MOUSE;bRACKBALL;aOLD PERSONAL COMPUTER;aHARD DISK
aSCREEN;aPRINTER ICON;aFAX ICON;aOPTICAL DISC ICON;aDOCUMENT WITH TEXT;s AND PICTURE;oPICTURE
aFRAME WITH PICTURE;lTILES;lAN X;aBLACK FOLDER;aFOLDER;aOPEN FOLDER;aCARD INDEX DIVIDERS;fFILE BOX
aFILE CABINET;aEMPTY NOTE;k PAGE;nD;aNOTE;e PAGE;hD;aEMPTY DOCUMENT;gPAGE;kS;aDOCUMENT;aPAGE;eS
aWASTEBASKET;aSPIRAL NOTE PAD;hCALENDAR PAD;aDESKTOP WINDOW;aMINIMIZE;bAXIMIZE;aOVERLAP
aCLOCKWISE RIGHT AND LEFT SEMICIRCLE ARROWS;bANCELLATION X;aINCREASE FONT SIZE SYMBOL
aDECREASE FONT SIZE SYMBOL;aCOMPRESSION;aOLD KEY;aROLLED-UP NEWSPAPER;aPAGE WITH CIRCLED TEXT
aSTOCK CHART;aDAGGER KNIFE;aLIPS;aSPEAKING HEAD IN SILHOUETTE;aTHREE RAYS ABOVE;lBELOW;lLEFT;lRIGHT
aLEFT SPEECH BUBBLE;aRIGHT SPEECH BUBBLE;aTWO SPEECH BUBBLES;bHREE SPEECH BUBBLES
aLEFT THOUGHT BUBBLE;aRIGHT THOUGHT BUBBLE;aLEFT ANGER BUBBLE;aRIGHT ANGER BUBBLE;aMOOD BUBBLE
aLIGHTNING MOOD BUBBLE;o;aBALLOT BOX WITH BALLOT;hSCRIPT X;hBOX WITH SCRIPT X;jLD SCRIPT X
jX WITH BOLD SCRIPT X;aLIGHT CHECK MARK;aBALLOT BOX WITH BOLD CHECK;aWORLD MAP;aMOUNT FUJI
aTOKYO TOWER;aSTATUE OF LIBERTY;bILHOUETTE OF JAPAN;aMOYAI;aGRINNING FACE;n WITH SMILING EYES
aFACE WITH TEARS OF JOY;aSMILING FACE WITH OPEN MOUTH;zd AND SMILING EYES;ziCOLD SWEAT
ziTIGHTLY-CLOSED EYES;sHALO;tORNS;aWINKING FACE;aSMILING FACE WITH SMILING EYES
aFACE SAVOURING DELICIOUS FOOD;aRELIEVED FACE;aSMILING FACE WITH HEART-SHAPED EYES;sSUNGLASSES
dRKING FACE;aNEUTRAL FACE;aEXPRESSIONLESS FACE;aUNAMUSED FACE;aFACE WITH COLD SWEAT;aPENSIVE FACE
aCONFUSED FACE;eOUNDED FACE;aKISSING FACE;aFACE THROWING A KISS;aKISSING FACE WITH SMILING EYES
sCLOSED EYES;aFACE WITH STUCK-OUT TONGUE;zb AND WINKING EYE;zgTIGHTLY-CLOSED EYES
aDISAPPOINTED FACE;aWORRIED FACE;aANGRY FACE;aPOUTING FACE;aCRYING FACE;aPERSEVERING FACE
aFACE WITH LOOK OF TRIUMPH;aDISAPPOINTED BUT RELIEVED FACE;aFROWNING FACE WITH OPEN MOUTH
aANGUISHED FACE;aFEARFUL FACE;aWEARY FACE;aSLEEPY FACE;aTIRED FACE;aGRIMACING FACE
aLOUDLY CRYING FACE;aFACE WITH OPEN MOUTH;aHUSHED FACE;aFACE WITH OPEN MOUTH AND COLD SWEAT
fSCREAMING IN FEAR;aASTONISHED FACE;aFLUSHED FACE;aSLEEPING FACE;aDIZZY FACE;aFACE WITHOUT MOUTH
j MEDICAL MASK;aGRINNING CAT FACE WITH SMILING EYES;aCAT FACE WITH TEARS OF JOY
aSMILING CAT FACE WITH OPEN MOUTH;wHEART-SHAPED EYES;aCAT FACE WITH WRY SMILE
aKISSING CAT FACE WITH CLOSED EYES;aPOUTING CAT FACE;aCRYING CAT FACE;aWEARY CAT FACE
aSLIGHTLY FROWNING FACE;jSMILING FACE;aUPSIDE-DOWN FACE;aFACE WITH ROLLING EYES;kNO GOOD GESTURE
kOK GESTURE;aPERSON BOWING DEEPLY;aSEE-NO-EVIL MONKEY;aHEAR-NO-EVIL MONKEY;aSPEAK-NO-EVIL MONKEY
aHAPPY PERSON RAISING ONE HAND;aPERSON RAISING BOTH HANDS IN CELEBRATION;hFROWNING
hWITH POUTING FACE;mFOLDED HANDS;aNORTH WEST POINTING LEAF;aSOUTH WEST POINTING LEAF
aNORTH EAST POINTING LEAF;aSOUTH EAST POINTING LEAF;aTURNED NORTH WEST POINTING LEAF
hSOUTH WEST POINTING LEAF;hNORTH EAST POINTING LEAF;hSOUTH EAST POINTING LEAF
aNORTH WEST POINTING VINE LEAF;aSOUTH WEST POINTING VINE LEAF;aNORTH EAST POINTING VINE LEAF
aSOUTH EAST POINTING VINE LEAF;aHEAVY NORTH WEST POINTING VINE LEAF;gSOUTH WEST POINTING VINE LEAF
gNORTH EAST POINTING VINE LEAF;gSOUTH EAST POINTING VINE LEAF;aNORTH WEST POINTING BUD
aSOUTH WEST POINTING BUD;aNORTH EAST POINTING BUD;aSOUTH EAST POINTING BUD
aHEAVY NORTH WEST POINTING BUD;gSOUTH WEST POINTING BUD;gNORTH EAST POINTING BUD
gSOUTH EAST POINTING BUD;bOLLOW QUILT SQUARE ORNAMENT;zd IN BLACK SQUARE
aSOLID QUILT SQUARE ORNAMENT;zc IN BLACK SQUARE;aLEFTWARDS ROCKET;aUPWARDS ROCKET
aRIGHTWARDS ROCKET;aDOWNWARDS ROCKET;aSCRIPT LIGATURE ET ORNAMENT
aHEAVY SCRIPT LIGATURE ET ORNAMENT;aLIGATURE OPEN ET ORNAMENT;aHEAVY LIGATURE OPEN ET ORNAMENT
gAMPERSAND ORNAMENT;aSWASH AMPERSAND ORNAMENT
bANS-SERIF HEAVY DOUBLE TURNED COMMA QUOTATION MARK ORNAMENT;yCOMMA QUOTATION MARK ORNAMENT
rLOW DOUBLE COMMA QUOTATION MARK ORNAMENT;aHEAVY INTERROBANG ORNAMENT
aSANS-SERIF INTERROBANG ORNAMENT;aHEAVY SANS-SERIF INTERROBANG ORNAMENT;aVERY HEAVY SOLIDUS
lREVERSE SOLIDUS;aCHECKER BOARD;aREVERSE CHECKER BOARD;bOCKET;aHELICOPTER;aSTEAM LOCOMOTIVE
aRAILWAY CAR;aHIGH-SPEED TRAIN;q WITH BULLET NOSE;aTRAIN;aMETRO;aLIGHT RAIL;aSTATION;aTRAM;e CAR
aBUS;aONCOMING BUS;aTROLLEYBUS;aBUS STOP;aMINIBUS;aAMBULANCE;aFIRE ENGINE;aPOLICE CAR
aONCOMING POLICE CAR;aTAXI;aONCOMING TAXI;aAUTOMOBILE;aONCOMING AUTOMOBILE;aRECREATIONAL VEHICLE
aDELIVERY TRUCK;aARTICULATED LORRY;aTRACTOR;aMONORAIL;cUNTAIN RAILWAY;aSUSPENSION RAILWAY
aMOUNTAIN CABLEWAY;aAERIAL TRAMWAY;aSHIP;aROWBOAT;aSPEEDBOAT;aHORIZONTAL TRAFFIC LIGHT
aVERTICAL TRAFFIC LIGHT;aCONSTRUCTION SIGN;aPOLICE CARS REVOLVING LIGHT;aTRIANGULAR FLAG ON POST
aDOOR;aNO ENTRY SIGN;aSMOKING SYMBOL;aNO SMOKING SYMBOL;aPUT LITTER IN ITS PLACE SYMBOL
aDO NOT LITTER SYMBOL;aPOTABLE WATER SYMBOL;aNON-POTABLE WATER SYMBOL;aBICYCLE;aNO BICYCLES
aBICYCLIST;aMOUNTAIN BICYCLIST;aPEDESTRIAN;aNO PEDESTRIANS;aCHILDREN CROSSING;aMENS SYMBOL
aWOMENS SYMBOL;aRESTROOM;aBABY SYMBOL;aTOILET;aWATER CLOSET;aSHOWER;aBATH;eTUB;aPASSPORT CONTROL
aCUSTOMS;aBAGGAGE CLAIM;aLEFT LUGGAGE;aTRIANGLE WITH ROUNDED CORNERS;aPROHIBITED SIGN
aCIRCLED INFORMATION SOURCE;aBOYS SYMBOL;aGIRLS SYMBOL;aCOUCH AND LAMP;aSLEEPING ACCOMMODATION
bHOPPING BAGS;aBELLHOP BELL;cD;aPLACE OF WORSHIP;aOCTAGONAL SIGN;aSHOPPING TROLLEY;bTUPA;aPAGODA
aHINDU TEMPLE;bUT;aELEVATOR;6aPLAYGROUND SLIDE;aWHEEL;aRING BUOY;aHAMMER AND WRENCH;aSHIELD
aOIL DRUM;aMOTORWAY;aRAILWAY TRACK;aMOTOR BOAT;aUP-POINTING MILITARY AIRPLANE;mAIRPLANE
mSMALL AIRPLANE;aSMALL AIRPLANE;aNORTHEAST-POINTING AIRPLANE;aAIRPLANE DEPARTURE;jARRIVING
4aSATELLITE;aONCOMING FIRE ENGINE;aDIESEL LOCOMOTIVE;aPASSENGER SHIP;aSCOOTER;aMOTOR SCOOTER;aCANOE
aSLED;aFLYING SAUCER;aSKATEBOARD;aAUTO RICKSHAW;aPICKUP TRUCK;aROLLER SKATE
4aALCHEMICAL SYMBOL FOR QUINTESSENCE;wAIR;wFIRE;wEARTH;wWATER;wAQUAFORTIS;zb REGIA;zh-2;zcVITAE
zh-2;wVINEGAR;ze-2;zf3;wSULFUR;wPHILOSOPHERS SULFUR;wBLACK SULFUR;wMERCURY SUBLIMATE;zo-2;zp3
wCINNABAR;wSALT;wNITRE;wVITRIOL;ze-2;wROCK SALT;zg-2;wGOLD;wSILVER;wIRON ORE;zf-2;wCROCUS OF IRON
wREGULUS OF IRON;wCOPPER ORE;wIRON-COPPER ORE;wSUBLIMATE OF COPPER;wCROCUS OF COPPER;zn-2
xOPPER ANTIMONIATE;wSALT OF COPPER ANTIMONIATE;xUBLIMATE OF SALT OF COPPER;wVERDIGRIS;wTIN ORE
wLEAD ORE;wANTIMONY ORE;wSUBLIMATE OF ANTIMONY;xALT OF ANTIMONY;xUBLIMATE OF SALT OF ANTIMONY
wVINEGAR OF ANTIMONY;wREGULUS OF ANTIMONY;zq-2;ze;ze-2;zf3;zf4;wALKALI;zd-2;wMARCASITE
wSAL-AMMONIAC;wARSENIC;wREALGAR;ze-2;wAURIPIGMENT;wBISMUTH ORE;wTARTAR;zd-2;wQUICK LIME;wBORAX;zc-2
zd3;wALUM;wOIL;wSPIRIT;wTINCTURE;wGUM;wWAX;wPOWDER;wCALX;wTUTTY;wCAPUT MORTUUM;wSCEPTER OF JOVE
wCADUCEUS;wTRIDENT;wSTARRED TRIDENT;wLODESTONE;wSOAP;wURINE;wHORSE DUNG;wASHES;wPOT ASHES;wBRICK
wPOWDERED BRICK;wAMALGAM;wSTRATUM SUPER STRATUM;zs-2;xUBLIMATION;wPRECIPITATE;wDISTILL;zaSOLVE;zf-2
wPURIFY;yTREFACTION;wCRUCIBLE;zf-2;zg3;zg4;zg5;wALEMBIC;wBATH OF MARY;zfVAPOURS;wRETORT;wHOUR
wNIGHT;wDAY-NIGHT;wMONTH;wHALF DRAM;zcOUNCE;DaBLACK LEFT-POINTING ISOSCELES RIGHT TRIANGLE
gUP-POINTING ISOSCELES RIGHT TRIANGLE;gRIGHT-POINTING ISOSCELES RIGHT TRIANGLE
gDOWN-POINTING ISOSCELES RIGHT TRIANGLE;gSLIGHTLY SMALL CIRCLE;aMEDIUM BOLD WHITE CIRCLE
aBOLD WHITE CIRCLE;aHEAVY WHITE CIRCLE;aVERY HEAVY WHITE CIRCLE;aEXTREMELY HEAVY WHITE CIRCLE
aWHITE CIRCLE CONTAINING BLACK SMALL CIRCLE;aROUND TARGET;aBLACK TINY SQUARE;gSLIGHTLY SMALL SQUARE
aLIGHT WHITE SQUARE;aMEDIUM WHITE SQUARE;aBOLD WHITE SQUARE;aHEAVY WHITE SQUARE
aVERY HEAVY WHITE SQUARE;aEXTREMELY HEAVY WHITE SQUARE
aWHITE SQUARE CONTAINING BLACK VERY SMALL SQUARE;zfMEDIUM SQUARE;aSQUARE TARGET;aBLACK TINY DIAMOND
gVERY SMALL DIAMOND;gMEDIUM SMALL DIAMOND;aWHITE DIAMOND CONTAINING BLACK VERY SMALL DIAMOND
zgMEDIUM DIAMOND;aDIAMOND TARGET;aBLACK TINY LOZENGE;gVERY SMALL LOZENGE;gMEDIUM SMALL LOZENGE
aWHITE LOZENGE CONTAINING BLACK SMALL LOZENGE;aTHIN GREEK CROSS;aLIGHT GREEK CROSS
aMEDIUM GREEK CROSS;aBOLD GREEK CROSS;aVERY BOLD GREEK CROSS;fHEAVY GREEK CROSS
aEXTREMELY HEAVY GREEK CROSS;aTHIN SALTIRE;aLIGHT SALTIRE;aMEDIUM SALTIRE;aBOLD SALTIRE
aHEAVY SALTIRE;aVERY HEAVY SALTIRE;aEXTREMELY HEAVY SALTIRE;aLIGHT FIVE SPOKED ASTERISK
aMEDIUM FIVE SPOKED ASTERISK;aBOLD FIVE SPOKED ASTERISK;aHEAVY FIVE SPOKED ASTERISK
aVERY HEAVY FIVE SPOKED ASTERISK;aEXTREMELY HEAVY FIVE SPOKED ASTERISK;aLIGHT SIX SPOKED ASTERISK
aMEDIUM SIX SPOKED ASTERISK;aBOLD SIX SPOKED ASTERISK;aHEAVY SIX SPOKED ASTERISK
aVERY HEAVY SIX SPOKED ASTERISK;aEXTREMELY HEAVY SIX SPOKED ASTERISK;aLIGHT EIGHT SPOKED ASTERISK
aMEDIUM EIGHT SPOKED ASTERISK;aBOLD EIGHT SPOKED ASTERISK;aHEAVY EIGHT SPOKED ASTERISK
aVERY HEAVY EIGHT SPOKED ASTERISK;aLIGHT THREE POINTED BLACK STAR;aMEDIUM THREE POINTED BLACK STAR
aTHREE POINTED BLACK STAR;aMEDIUM THREE POINTED PINWHEEL STAR;aLIGHT FOUR POINTED BLACK STAR
aMEDIUM FOUR POINTED BLACK STAR;aFOUR POINTED BLACK STAR;aMEDIUM FOUR POINTED PINWHEEL STAR
aREVERSE LIGHT FOUR POINTED PINWHEEL STAR;aLIGHT FIVE POINTED BLACK STAR
aHEAVY FIVE POINTED BLACK STAR;aMEDIUM SIX POINTED BLACK STAR;aHEAVY SIX POINTED BLACK STAR
aSIX POINTED PINWHEEL STAR;aMEDIUM EIGHT POINTED BLACK STAR;aHEAVY EIGHT POINTED BLACK STAR
aVERY HEAVY EIGHT POINTED BLACK STAR;aHEAVY EIGHT POINTED PINWHEEL STAR
aLIGHT TWELVE POINTED BLACK STAR;aHEAVY TWELVE POINTED BLACK STAR;vPINWHEEL STAR;aCIRCLED TRIANGLE
aNEGATIVE CIRCLED TRIANGLE;aCIRCLED SQUARE;aNEGATIVE CIRCLED SQUARE;8aLARGE ORANGE CIRCLE
gYELLOW CIRCLE;gGREEN CIRCLE;gPURPLE CIRCLE;gBROWN CIRCLE;gRED SQUARE;gBLUE SQUARE;gORANGE SQUARE
gYELLOW SQUARE;gGREEN SQUARE;gPURPLE SQUARE;gBROWN SQUARE;5aHEAVY EQUALS SIGN
10aLEFTWARDS ARROW WITH SMALL TRIANGLE ARROWHEAD;aUPWARDS ARROW WITH SMALL TRIANGLE ARROWHEAD
aRIGHTWARDS ARROW WITH SMALL TRIANGLE ARROWHEAD;aDOWNWARDS ARROW WITH SMALL TRIANGLE ARROWHEAD
aLEFTWARDS ARROW WITH MEDIUM TRIANGLE ARROWHEAD;aUPWARDS ARROW WITH MEDIUM TRIANGLE ARROWHEAD
aRIGHTWARDS ARROW WITH MEDIUM TRIANGLE ARROWHEAD;aDOWNWARDS ARROW WITH MEDIUM TRIANGLE ARROWHEAD
aLEFTWARDS ARROW WITH LARGE TRIANGLE ARROWHEAD;aUPWARDS ARROW WITH LARGE TRIANGLE ARROWHEAD
aRIGHTWARDS ARROW WITH LARGE TRIANGLE ARROWHEAD;aDOWNWARDS ARROW WITH LARGE TRIANGLE ARROWHEAD
5aLEFTWARDS ARROW WITH SMALL EQUILATERAL ARROWHEAD;aUPWARDS ARROW WITH SMALL EQUILATERAL ARROWHEAD
aRIGHTWARDS ARROW WITH SMALL EQUILATERAL ARROWHEAD
aDOWNWARDS ARROW WITH SMALL EQUILATERAL ARROWHEAD;aLEFTWARDS ARROW WITH EQUILATERAL ARROWHEAD
aUPWARDS ARROW WITH EQUILATERAL ARROWHEAD;aRIGHTWARDS ARROW WITH EQUILATERAL ARROWHEAD
aDOWNWARDS ARROW WITH EQUILATERAL ARROWHEAD;aHEAVY LEFTWARDS ARROW WITH EQUILATERAL ARROWHEAD
gUPWARDS ARROW WITH EQUILATERAL ARROWHEAD;gRIGHTWARDS ARROW WITH EQUILATERAL ARROWHEAD
gDOWNWARDS ARROW WITH EQUILATERAL ARROWHEAD;gLEFTWARDS ARROW WITH LARGE EQUILATERAL ARROWHEAD
gUPWARDS ARROW WITH LARGE EQUILATERAL ARROWHEAD;gRIGHTWARDS ARROW WITH LARGE EQUILATERAL ARROWHEAD
gDOWNWARDS ARROW WITH LARGE EQUILATERAL ARROWHEAD
aLEFTWARDS TRIANGLE-HEADED ARROW WITH NARROW SHAFT;aUPWARDS TRIANGLE-HEADED ARROW WITH NARROW SHAFT
aRIGHTWARDS TRIANGLE-HEADED ARROW WITH NARROW SHAFT
aDOWNWARDS TRIANGLE-HEADED ARROW WITH NARROW SHAFT
aLEFTWARDS TRIANGLE-HEADED ARROW WITH MEDIUM SHAFT;aUPWARDS TRIANGLE-HEADED ARROW WITH MEDIUM SHAFT
aRIGHTWARDS TRIANGLE-HEADED ARROW WITH MEDIUM SHAFT
aDOWNWARDS TRIANGLE-HEADED ARROW WITH MEDIUM SHAFT;aLEFTWARDS TRIANGLE-HEADED ARROW WITH BOLD SHAFT
aUPWARDS TRIANGLE-HEADED ARROW WITH BOLD SHAFT;aRIGHTWARDS TRIANGLE-HEADED ARROW WITH BOLD SHAFT
aDOWNWARDS TRIANGLE-HEADED ARROW WITH BOLD SHAFT;aLEFTWARDS TRIANGLE-HEADED ARROW WITH HEAVY SHAFT
aUPWARDS TRIANGLE-HEADED ARROW WITH HEAVY SHAFT;aRIGHTWARDS TRIANGLE-HEADED ARROW WITH HEAVY SHAFT
aDOWNWARDS TRIANGLE-HEADED ARROW WITH HEAVY SHAFT
aLEFTWARDS TRIANGLE-HEADED ARROW WITH VERY HEAVY SHAFT
aUPWARDS TRIANGLE-HEADED ARROW WITH VERY HEAVY SHAFT
aRIGHTWARDS TRIANGLE-HEADED ARROW WITH VERY HEAVY SHAFT
aDOWNWARDS TRIANGLE-HEADED ARROW WITH VERY HEAVY SHAFT;aLEFTWARDS FINGER-POST ARROW
aUPWARDS FINGER-POST ARROW;aRIGHTWARDS FINGER-POST ARROW;aDOWNWARDS FINGER-POST ARROW
aLEFTWARDS SQUARED ARROW;aUPWARDS SQUARED ARROW;aRIGHTWARDS SQUARED ARROW;aDOWNWARDS SQUARED ARROW
aLEFTWARDS COMPRESSED ARROW;aUPWARDS COMPRESSED ARROW;aRIGHTWARDS COMPRESSED ARROW
aDOWNWARDS COMPRESSED ARROW;aLEFTWARDS HEAVY COMPRESSED ARROW;aUPWARDS HEAVY COMPRESSED ARROW
aRIGHTWARDS HEAVY COMPRESSED ARROW;aDOWNWARDS HEAVY COMPRESSED ARROW;aLEFTWARDS HEAVY ARROW
aUPWARDS HEAVY ARROW;aRIGHTWARDS HEAVY ARROW;aDOWNWARDS HEAVY ARROW;9aLEFTWARDS SANS-SERIF ARROW
aUPWARDS SANS-SERIF ARROW;aRIGHTWARDS SANS-SERIF ARROW;aDOWNWARDS SANS-SERIF ARROW
aNORTH WEST SANS-SERIF ARROW;gEAST SANS-SERIF ARROW;aSOUTH EAST SANS-SERIF ARROW
gWEST SANS-SERIF ARROW;aLEFT RIGHT SANS-SERIF ARROW;aUP DOWN SANS-SERIF ARROW
7aWIDE-HEADED LEFTWARDS LIGHT BARB ARROW;mUPWARDS LIGHT BARB ARROW;mRIGHTWARDS LIGHT BARB ARROW
mDOWNWARDS LIGHT BARB ARROW;mNORTH WEST LIGHT BARB ARROW;sEAST LIGHT BARB ARROW
mSOUTH EAST LIGHT BARB ARROW;sWEST LIGHT BARB ARROW;mLEFTWARDS BARB ARROW;mUPWARDS BARB ARROW
mRIGHTWARDS BARB ARROW;mDOWNWARDS BARB ARROW;mNORTH WEST BARB ARROW;sEAST BARB ARROW
mSOUTH EAST BARB ARROW;sWEST BARB ARROW;mLEFTWARDS MEDIUM BARB ARROW;mUPWARDS MEDIUM BARB ARROW
mRIGHTWARDS MEDIUM BARB ARROW;mDOWNWARDS MEDIUM BARB ARROW;mNORTH WEST MEDIUM BARB ARROW
sEAST MEDIUM BARB ARROW;mSOUTH EAST MEDIUM BARB ARROW;sWEST MEDIUM BARB ARROW
mLEFTWARDS HEAVY BARB ARROW;mUPWARDS HEAVY BARB ARROW;mRIGHTWARDS HEAVY BARB ARROW
mDOWNWARDS HEAVY BARB ARROW;mNORTH WEST HEAVY BARB ARROW;sEAST HEAVY BARB ARROW
mSOUTH EAST HEAVY BARB ARROW;sWEST HEAVY BARB ARROW;mLEFTWARDS VERY HEAVY BARB ARROW
mUPWARDS VERY HEAVY BARB ARROW;mRIGHTWARDS VERY HEAVY BARB ARROW;mDOWNWARDS VERY HEAVY BARB ARROW
mNORTH WEST VERY HEAVY BARB ARROW;sEAST VERY HEAVY BARB ARROW;mSOUTH EAST VERY HEAVY BARB ARROW
sWEST VERY HEAVY BARB ARROW;9aLEFTWARDS TRIANGLE ARROWHEAD;aUPWARDS TRIANGLE ARROWHEAD
aRIGHTWARDS TRIANGLE ARROWHEAD;aDOWNWARDS TRIANGLE ARROWHEAD
aLEFTWARDS WHITE ARROW WITHIN TRIANGLE ARROWHEAD;aUPWARDS WHITE ARROW WITHIN TRIANGLE ARROWHEAD
aRIGHTWARDS WHITE ARROW WITHIN TRIANGLE ARROWHEAD;aDOWNWARDS WHITE ARROW WITHIN TRIANGLE ARROWHEAD
aLEFTWARDS ARROW WITH NOTCHED TAIL;aUPWARDS ARROW WITH NOTCHED TAIL
aRIGHTWARDS ARROW WITH NOTCHED TAIL;aDOWNWARDS ARROW WITH NOTCHED TAIL;aHEAVY ARROW SHAFT WIDTH ONE
yTWO THIRDS;yONE HALF;zdTHIRD;aLEFTWARDS BOTTOM-SHADED WHITE ARROW
aRIGHTWARDS BOTTOM SHADED WHITE ARROW;aLEFTWARDS TOP SHADED WHITE ARROW
aRIGHTWARDS TOP SHADED WHITE ARROW;aLEFTWARDS LEFT-SHADED WHITE ARROW
aRIGHTWARDS RIGHT-SHADED WHITE ARROW;aLEFTWARDS RIGHT-SHADED WHITE ARROW
aRIGHTWARDS LEFT-SHADED WHITE ARROW;aLEFTWARDS BACK-TILTED SHADOWED WHITE ARROW
aRIGHTWARDS BACK-TILTED SHADOWED WHITE ARROW;aLEFTWARDS FRONT-TILTED SHADOWED WHITE ARROW
aRIGHTWARDS FRONT-TILTED SHADOWED WHITE ARROW;aWHITE ARROW SHAFT WIDTH ONE;yTWO THIRDS
3aARROW POINTING UPWARDS THEN NORTH WEST;pRIGHTWARDS THEN CURVING SOUTH WEST
4FaCIRCLED CROSS FORMEE WITH FOUR DOTS;zbTWO DOTS;u;aLEFT HALF CIRCLE WITH FOUR DOTS;wTHREE DOTS
xWO DOTS;wDOT;q;aDOWNWARD FACING HOOK;qNOTCHED HOOK;qHOOK WITH DOT;qNOTCHED HOOK WITH DOT
aPINCHED FINGERS;aWHITE HEART;aBROWN HEART;aPINCHING HAND;aZIPPER-MOUTH FACE;aMONEY-MOUTH FACE
aFACE WITH THERMOMETER;aNERD FACE;aTHINKING FACE;aFACE WITH HEAD-BANDAGE;aROBOT FACE;aHUGGING FACE
aSIGN OF THE HORNS;aCALL ME HAND;aRAISED BACK OF HAND;aLEFT-FACING FIST;aRIGHT-FACING FIST
aHANDSHAKE;e WITH INDEX AND MIDDLE FINGERS CROSSED;aI LOVE YOU HAND SIGN;aFACE WITH COWBOY HAT
aCLOWN FACE;aNAUSEATED FACE;aROLLING ON THE FLOOR LAUGHING;aDROOLING FACE;aLYING FACE;aFACE PALM
aSNEEZING FACE;aFACE WITH ONE EYEBROW RAISED;aGRINNING FACE WITH STAR EYES
tONE LARGE AND ONE SMALL EYE;aFACE WITH FINGER COVERING CLOSED LIPS
aSERIOUS FACE WITH SYMBOLS COVERING MOUTH;bMILING FACE WITH SMILING EYES AND HAND COVERING MOUTH
aFACE WITH OPEN MOUTH VOMITING;aSHOCKED FACE WITH EXPLODING HEAD;aPREGNANT WOMAN;aBREAST-FEEDING
aPALMS UP TOGETHER;aSELFIE;aPRINCE;aMAN IN TUXEDO;bOTHER CHRISTMAS;aSHRUG;aPERSON DOING CARTWHEEL
aJUGGLING;aFENCER;aMODERN PENTATHLON;aWRESTLERS;bATER POLO;aHANDBALL;aDIVING MASK;aWILTED FLOWER
aDRUM WITH DRUMSTICKS;aCLINKING GLASSES;aTUMBLER GLASS;aSPOON;aGOAL NET;aRIFLE;aFIRST PLACE MEDAL
aSECOND PLACE MEDAL;aTHIRD PLACE MEDAL;aBOXING GLOVE;aMARTIAL ARTS UNIFORM;aCURLING STONE
aLACROSSE STICK AND BALL;aSOFTBALL;aFLYING DISC;aCROISSANT;aAVOCADO;aCUCUMBER;aBACON;aPOTATO
aCARROT;aBAGUETTE BREAD;aGREEN SALAD;aSHALLOW PAN OF FOOD;bTUFFED FLATBREAD;aEGG;aGLASS OF MILK
aPEANUTS;aKIWIFRUIT;aPANCAKES;aDUMPLING;aFORTUNE COOKIE;aTAKEOUT BOX;aCHOPSTICKS;aBOWL WITH SPOON
aCUP WITH STRAW;bOCONUT;aBROCCOLI;aPIE;bRETZEL;aCUT OF MEAT;aSANDWICH;aCANNED FOOD;aLEAFY GREEN
aMANGO;bOON CAKE;aBAGEL;aSMILING FACE WITH SMILING EYES AND THREE HEARTS;aYAWNING FACE
aSMILING FACE WITH TEAR;aFACE WITH PARTY HORN AND PARTY HAT;kUNEVEN EYES AND WAVY MOUTH
aOVERHEATED FACE;aFREEZING FACE;aNINJA;aDISGUISED FACE;aFACE HOLDING BACK TEARS;fWITH PLEADING EYES
aSARI;aLAB COAT;aGOGGLES;aHIKING BOOT;aFLAT SHOE;aCRAB;aLION FACE;aSCORPION;aTURKEY;aUNICORN FACE
aEAGLE;aDUCK;aBAT;aSHARK;aOWL;aFOX FACE;aBUTTERFLY;aDEER;aGORILLA;aLIZARD;aRHINOCEROS;aSHRIMP;bQUID
aGIRAFFE FACE;aZEBRA FACE;aHEDGEHOG;aSAUROPOD;aT-REX;aCRICKET;aKANGAROO;aLLAMA;aPEACOCK
aHIPPOPOTAMUS;aPARROT;aRACCOON;aLOBSTER;aMOSQUITO;bICROBE;aBADGER;aSWAN;aMAMMOTH;aDODO;aSLOTH
aOTTER;bRANGUTAN;aSKUNK;aFLAMINGO;aOYSTER;aBEAVER;bISON;aSEAL;aGUIDE DOG;aPROBING CANE
aEMOJI COMPONENT RED HAIR;qCURLY HAIR;qBALD;qWHITE HAIR;aBONE;aLEG;aFOOT;aTOOTH;aSUPERHERO;fVILLAIN
bAFETY VEST;aEAR WITH HEARING AID;aMOTORIZED WHEELCHAIR;bANUAL WHEELCHAIR;bECHANICAL ARM;lLEG
aCHEESE WEDGE;bUPCAKE;aSALT SHAKER;aBEVERAGE BOX;aGARLIC;aONION;aFALAFEL;aWAFFLE;aBUTTER
aMATE DRINK;aICE CUBE;aBUBBLE TEA;aTROLL;aSTANDING PERSON;aKNEELING PERSON;aDEAF PERSON
aFACE WITH MONOCLE;aADULT;aCHILD;aOLDER ADULT;aBEARDED PERSON;aPERSON WITH HEADSCARF
hIN STEAMY ROOM;hCLIMBING;hIN LOTUS POSITION;aMAGE;aFAIRY;aVAMPIRE;aMERPERSON;aELF;aGENIE;aZOMBIE
aBRAIN;aORANGE HEART;aBILLED CAP;aSCARF;aGLOVES;aCOAT;aSOCKS;aRED GIFT ENVELOPE;aFIRECRACKER
aJIGSAW PUZZLE PIECE;aTEST TUBE;aPETRI DISH;aDNA DOUBLE HELIX;aCOMPASS;aABACUS;aFIRE EXTINGUISHER
aTOOLBOX;aBRICK;aMAGNET;aLUGGAGE;bOTION BOTTLE;aSPOOL OF THREAD;aBALL OF YARN;aSAFETY PIN
aTEDDY BEAR;aBROOM;bASKET;aROLL OF PAPER;aBAR OF SOAP;aSPONGE;aRECEIPT;aNAZAR AMULET
bEUTRAL CHESS KING;oQUEEN;oROOK;oBISHOP;oKNIGHT;oPAWN
aWHITE CHESS KNIGHT ROTATED FORTY-FIVE DEGREES;aBLACK CHESS KNIGHT ROTATED FORTY-FIVE DEGREES
aNEUTRAL CHESS KNIGHT ROTATED FORTY-FIVE DEGREES;aWHITE CHESS KING ROTATED NINETY DEGREES
mQUEEN ROTATED NINETY DEGREES;mROOK ROTATED NINETY DEGREES;mBISHOP ROTATED NINETY DEGREES
mKNIGHT ROTATED NINETY DEGREES;mPAWN ROTATED NINETY DEGREES
aBLACK CHESS KING ROTATED NINETY DEGREES;mQUEEN ROTATED NINETY DEGREES;mROOK ROTATED NINETY DEGREES
mBISHOP ROTATED NINETY DEGREES;mKNIGHT ROTATED NINETY DEGREES;mPAWN ROTATED NINETY DEGREES
aNEUTRAL CHESS KING ROTATED NINETY DEGREES;oQUEEN ROTATED NINETY DEGREES
oROOK ROTATED NINETY DEGREES;oBISHOP ROTATED NINETY DEGREES;oKNIGHT ROTATED NINETY DEGREES
oPAWN ROTATED NINETY DEGREES;aWHITE CHESS KNIGHT ROTATED ONE HUNDRED THIRTY-FIVE DEGREES
aBLACK CHESS KNIGHT ROTATED ONE HUNDRED THIRTY-FIVE DEGREES
aNEUTRAL CHESS KNIGHT ROTATED ONE HUNDRED THIRTY-FIVE DEGREES;aWHITE CHESS TURNED KING;tQUEEN;tROOK
tBISHOP;tKNIGHT;tPAWN;aBLACK CHESS TURNED KING;tQUEEN;tROOK;tBISHOP;tKNIGHT;tPAWN
aNEUTRAL CHESS TURNED KING;vQUEEN;vROOK;vBISHOP;vKNIGHT;vPAWN
aWHITE CHESS KNIGHT ROTATED TWO HUNDRED TWENTY-FIVE DEGREES
aBLACK CHESS KNIGHT ROTATED TWO HUNDRED TWENTY-FIVE DEGREES
aNEUTRAL CHESS KNIGHT ROTATED TWO HUNDRED TWENTY-FIVE DEGREES
aWHITE CHESS KING ROTATED TWO HUNDRED SEVENTY DEGREES;mQUEEN ROTATED TWO HUNDRED SEVENTY DEGREES
mROOK ROTATED TWO HUNDRED SEVENTY DEGREES;mBISHOP ROTATED TWO HUNDRED SEVENTY DEGREES
mKNIGHT ROTATED TWO HUNDRED SEVENTY DEGREES;mPAWN ROTATED TWO HUNDRED SEVENTY DEGREES
aBLACK CHESS KING ROTATED TWO HUNDRED SEVENTY DEGREES;mQUEEN ROTATED TWO HUNDRED SEVENTY DEGREES
mROOK ROTATED TWO HUNDRED SEVENTY DEGREES;mBISHOP ROTATED TWO HUNDRED SEVENTY DEGREES
mKNIGHT ROTATED TWO HUNDRED SEVENTY DEGREES;mPAWN ROTATED TWO HUNDRED SEVENTY DEGREES
aNEUTRAL CHESS KING ROTATED TWO HUNDRED SEVENTY DEGREES;oQUEEN ROTATED TWO HUNDRED SEVENTY DEGREES
oROOK ROTATED TWO HUNDRED SEVENTY DEGREES;oBISHOP ROTATED TWO HUNDRED SEVENTY DEGREES
oKNIGHT ROTATED TWO HUNDRED SEVENTY DEGREES;oPAWN ROTATED TWO HUNDRED SEVENTY DEGREES
aWHITE CHESS KNIGHT ROTATED THREE HUNDRED FIFTEEN DEGREES
aBLACK CHESS KNIGHT ROTATED THREE HUNDRED FIFTEEN DEGREES
aNEUTRAL CHESS KNIGHT ROTATED THREE HUNDRED FIFTEEN DEGREES;aWHITE CHESS EQUIHOPPER
aBLACK CHESS EQUIHOPPER;aNEUTRAL CHESS EQUIHOPPER;aWHITE CHESS EQUIHOPPER ROTATED NINETY DEGREES
aBLACK CHESS EQUIHOPPER ROTATED NINETY DEGREES;aNEUTRAL CHESS EQUIHOPPER ROTATED NINETY DEGREES
aWHITE CHESS KNIGHT-QUEEN;tROOK;tBISHOP;aBLACK CHESS KNIGHT-QUEEN;tROOK;tBISHOP
DaXIANGQI RED GENERAL;mMANDARIN;mELEPHANT;mHORSE;mCHARIOT;nANNON;mSOLDIER;iBLACK GENERAL;oMANDARIN
oELEPHANT;oHORSE;oCHARIOT;pANNON;oSOLDIER;3aBALLET SHOES;aONE-PIECE SWIMSUIT;aBRIEFS;aSHORTS
aTHONG SANDAL;4aDROP OF BLOOD;aADHESIVE BANDAGE;aSTETHOSCOPE;aX-RAY;aCRUTCH;4aYO-YO;aKITE
aPARACHUTE;aBOOMERANG;aMAGIC WAND;aPINATA;aNESTING DOLLS;AaRINGED PLANET;aCHAIR;aRAZOR;aAXE
aDIYA LAMP;aBANJO;aMILITARY HELMET;aACCORDION;aLONG DRUM;aCOIN;bARPENTRY SAW;aSCREWDRIVER;aLADDER
aHOOK;aMIRROR;aWINDOW;aPLUNGER;aSEWING NEEDLE;aKNOT;aBUCKET;aMOUSE TRAP;aTOOTHBRUSH;aHEADSTONE
aPLACARD;aROCK;aMIRROR BALL;aIDENTIFICATION CARD;aLOW BATTERY;aHAMSA;4aFLY;aWORM;aBEETLE;aCOCKROACH
aPOTTED PLANT;aWOOD;aFEATHER;aLOTUS;aCORAL;aEMPTY NEST;aNEST WITH EGGS;6aANATOMICAL HEART;aLUNGS
aPEOPLE HUGGING;bREGNANT MAN;jPERSON;bERSON WITH CROWN;BaBLUEBERRIES;bELL PEPPER;aOLIVE;aFLATBREAD
aTAMALE;aFONDUE;aTEAPOT;aPOURING LIQUID;aBEANS;aJAR;7aMELTING FACE;aSALUTING FACE
aFACE WITH OPEN EYES AND HAND OVER MOUTH;kPEEKING EYE;kDIAGONAL MOUTH;aDOTTED LINE FACE;aBITING LIP
bUBBLES;9aHAND WITH INDEX FINGER AND THUMB CROSSED;aRIGHTWARDS HAND;aLEFTWARDS HAND;aPALM DOWN HAND
fUP HAND;aINDEX POINTING AT THE VIEWER;aHEART HANDS;AaBLOCK SEXTANT-1;o2;o12;o3;o13;o23;o123;o4;o14
o24;o124;o34;o134;o234;o1234;o5;o15;o25;o125;o35;o235;o1235;o45;o145;o245;o1245;o345;o1345;o2345
o12345;o6;o16;o26;o126;o36;o136;o236;o1236;o46;o146;p246;o346;o1346;o2346;o12346;o56;o156;o256
o1256;o356;o1356;o2356;o12356;o456;o1456;o2456;o12456;o3456;o13456;o23456
aLOWER LEFT BLOCK DIAGONAL LOWER MIDDLE LEFT TO LOWER CENTRE;zzER RIGHT
zbUPPER MIDDLE LEFT TO LOWER CENTRE;zzER RIGHT;zhLEFT TO LOWER CENTRE
gRIGHT BLOCK DIAGONAL UPPER MIDDLE LEFT TO UPPER CENTRE;zzPER RIGHT
zcLOWER MIDDLE LEFT TO UPPER CENTRE;zzPER RIGHT;ziLEFT TO UPPER CENTRE
ziMIDDLE LEFT TO UPPER MIDDLE RIGHT;ziCENTRE TO LOWER MIDDLE RIGHT;ziLEFT TO LOWER MIDDLE RIGHT
ziCENTRE TO UPPER MIDDLE RIGHT;ziLEFT TO UPPER MIDDLE RIGHT;ziCENTRE TO UPPER RIGHT
gLEFT BLOCK DIAGONAL UPPER CENTRE TO UPPER MIDDLE RIGHT;zhLEFT TO UPPER MIDDLE RIGHT
zhCENTRE TO LOWER MIDDLE RIGHT;zhLEFT TO LOWER MIDDLE RIGHT;zhCENTRE TO LOWER RIGHT
zhMIDDLE LEFT TO LOWER MIDDLE RIGHT;aUPPER RIGHT BLOCK DIAGONAL LOWER MIDDLE LEFT TO LOWER CENTRE
zzWER RIGHT;zcUPPER MIDDLE LEFT TO LOWER CENTRE;zzWER RIGHT;ziLEFT TO LOWER CENTRE
gLEFT BLOCK DIAGONAL UPPER MIDDLE LEFT TO UPPER CENTRE;zzER RIGHT
zbLOWER MIDDLE LEFT TO UPPER CENTRE;zzER RIGHT;zhLEFT TO UPPER CENTRE
zhMIDDLE LEFT TO UPPER MIDDLE RIGHT;zhCENTRE TO LOWER MIDDLE RIGHT;zhLEFT TO LOWER MIDDLE RIGHT
zhCENTRE TO UPPER MIDDLE RIGHT;zhLEFT TO UPPER MIDDLE RIGHT;zhCENTRE TO UPPER RIGHT
gRIGHT BLOCK DIAGONAL UPPER CENTRE TO UPPER MIDDLE RIGHT;ziLEFT TO UPPER MIDDLE RIGHT
ziCENTRE TO LOWER MIDDLE RIGHT;ziLEFT TO LOWER MIDDLE RIGHT;ziCENTRE TO LOWER RIGHT
ziMIDDLE LEFT TO LOWER MIDDLE RIGHT;gAND RIGHT AND LOWER TRIANGULAR THREE QUARTERS BLOCK
aLEFT AND LOWER AND RIGHT TRIANGULAR THREE QUARTERS BLOCK
aUPPER AND LEFT AND LOWER TRIANGULAR THREE QUARTERS BLOCK
aLEFT AND UPPER AND RIGHT TRIANGULAR THREE QUARTERS BLOCK;fTRIANGULAR ONE QUARTER BLOCK
aUPPER TRIANGULAR ONE QUARTER BLOCK;aRIGHT TRIANGULAR ONE QUARTER BLOCK
aLOWER TRIANGULAR ONE QUARTER BLOCK;aVERTICAL ONE EIGHTH BLOCK-2;zb3;zb4;zb5;zb6;zb7
aHORIZONTAL ONE EIGHTH BLOCK-2;zd3;zd4;zd5;zd6;zd7;aLEFT AND LOWER ONE EIGHTH BLOCK
jUPPER ONE EIGHTH BLOCK;aRIGHT AND UPPER ONE EIGHTH BLOCK;kLOWER ONE EIGHTH BLOCK
aUPPER AND LOWER ONE EIGHTH BLOCK;aHORIZONTAL ONE EIGHTH BLOCK-1358;aUPPER ONE QUARTER BLOCK
gTHREE EIGHTHS BLOCK;gFIVE EIGHTHS BLOCK;gTHREE QUARTERS BLOCK;gSEVEN EIGHTHS BLOCK
aRIGHT ONE QUARTER BLOCK;gTHREE EIGHTHS BLOCK;gFIVE EIGHTHS BLOCK;gTHREE QUARTERS BLOCK
gSEVEN EIGHTHS BLOCK;aLEFT HALF MEDIUM SHADE;aRIGHT HALF MEDIUM SHADE;aUPPER HALF MEDIUM SHADE
aLOWER HALF MEDIUM SHADE;aINVERSE MEDIUM SHADE
aUPPER HALF BLOCK AND LOWER HALF INVERSE MEDIUM SHADE;lINVERSE MEDIUM SHADE AND LOWER HALF BLOCK
2aLEFT HALF INVERSE MEDIUM SHADE AND RIGHT HALF BLOCK;aCHECKER BOARD FILL
aINVERSE CHECKER BOARD FILL;aHEAVY HORIZONTAL FILL;aUPPER LEFT TO LOWER RIGHT FILL
gRIGHT TO LOWER LEFT FILL;gAND LOWER TRIANGULAR HALF BLOCK;aLEFT AND RIGHT TRIANGULAR HALF BLOCK
aUPPER LEFT TRIANGULAR MEDIUM SHADE;gRIGHT TRIANGULAR MEDIUM SHADE
aLOWER RIGHT TRIANGULAR MEDIUM SHADE;gLEFT TRIANGULAR MEDIUM SHADE
aBOX DRAWINGS LIGHT DIAGONAL UPPER CENTRE TO MIDDLE LEFT;zz RIGHT;zdMIDDLE LEFT TO LOWER CENTRE
zkRIGHT TO LOWER CENTRE;zdUPPER CENTRE TO MIDDLE LEFT TO LOWER CENTRE;zz RIGHT TO LOWER CENTRE
zdMIDDLE LEFT TO LOWER CENTRE TO MIDDLE RIGHT;zsUPPER CENTRE TO MIDDLE RIGHT
zdUPPER CENTRE TO MIDDLE LEFT AND MIDDLE RIGHT TO LOWER CENTRE
zz RIGHT AND MIDDLE LEFT TO LOWER CENTRE;zz RIGHT TO LOWER CENTRE TO MIDDLE LEFT
zz LEFT TO LOWER CENTRE TO MIDDLE RIGHT
zdMIDDLE LEFT TO UPPER CENTRE TO MIDDLE RIGHT TO LOWER CENTRE
zkRIGHT TO UPPER CENTRE TO MIDDLE LEFT TO LOWER CENTRE;zdDIAMOND;tHORIZONTAL WITH VERTICAL STROKE
aARROWHEAD-SHAPED POINTER;aINVERSE CHECK MARK;aLEFT HALF RUNNING MAN;aRIGHT HALF RUNNING MAN
aINVERSE DOWNWARDS ARROW WITH TIP LEFTWARDS;aLEFTWARDS ARROW AND UPPER AND LOWER ONE EIGHTH BLOCK
aRIGHTWARDS ARROW AND UPPER AND LOWER ONE EIGHTH BLOCK;aDOWNWARDS ARROW AND RIGHT ONE EIGHTH BLOCK
aUPWARDS ARROW AND RIGHT ONE EIGHTH BLOCK;aLEFT HALF FOLDER;aRIGHT HALF FOLDER;aVOIDED GREEK CROSS
aRIGHT OPEN SQUARED DOT;aNEGATIVE DIAGONAL CROSS;sMIDDLE RIGHT TO LOWER CENTRE;sDIAMOND
aWHITE HEAVY SALTIRE WITH ROUNDED CORNERS;aLEFT THIRD WHITE RIGHT POINTING INDEX
aMIDDLE THIRD WHITE RIGHT POINTING INDEX;aRIGHT THIRD WHITE RIGHT POINTING INDEX
aNEGATIVE SQUARED QUESTION MARK;aSTICK FIGURE;m WITH ARMS RAISED;nLEANING LEFT;vRIGHT;nWITH DRESS
aWHITE UP-POINTING CHEVRON;26aSEGMENTED DIGIT ZERO;qONE;qTWO;rHREE;qFOUR;rIVE;qSIX;rEVEN;qEIGHT
qNINE;FC07aCJK COMPATIBILITY IDEOGRAPH-2F800;zh1;zh2;zh3;zh4;zh5;zh6;zh7;zh8;zh9;zhA;zhB;zhC;zhD
zhE;zhF;zg10;zh1;zh2;zh3;zh4;zh5;zh6;zh7;zh8;zh9;zhA;zhB;zhC;zhD;zhE;zhF;zg20;zh1;zh2;zh3;zh4;zh5
zh6;zh7;zh8;zh9;zhA;zhB;zhC;zhD;zhE;zhF;zg30;zh1;zh2;zh3;zh4;zh5;zh6;zh7;zh8;zh9;zhA;zhB;zhC;zhD
zhE;zhF;zg40;zh1;zh2;zh3;zh4;zh5;zh6;zh7;zh8;zh9;zhA;zhB;zhC;zhD;zhE;zhF;zg50;zh1;zh2;zh3;zh4;zh5
zh6;zh7;zh8;zh9;zhA;zhB;zhC;zhD;zhE;zhF;zg60;zh1;zh2;zh3;zh4;zh5;zh6;zh7;zh8;zh9;zhA;zhB;zhC;zhD
zhE;zhF;zg70;zh1;zh2;zh3;zh4;zh5;zh6;zh7;zh8;zh9;zhA;zhB;zhC;zhD;zhE;zhF;zg80;zh1;zh2;zh3;zh4;zh5
zh6;zh7;zh8;zh9;zhA;zhB;zhC;zhD;zhE;zhF;zg90;zh1;zh2;zh3;zh4;zh5;zh6;zh7;zh8;zh9;zhA;zhB;zhC;zhD
zhE;zhF;zgA0;zh1;zh2;zh3;zh4;zh5;zh6;zh7;zh8;zh9;zhA;zhB;zhC;zhD;zhE;zhF;zgB0;zh1;zh2;zh3;zh4;zh5
zh6;zh7;zh8;zh9;zhA;zhB;zhC;zhD;zhE;zhF;zgC0;zh1;zh2;zh3;zh4;zh5;zh6;zh7;zh8;zh9;zhA;zhB;zhC;zhD
zhE;zhF;zgD0;zh1;zh2;zh3;zh4;zh5;zh6;zh7;zh8;zh9;zhA;zhB;zhC;zhD;zhE;zhF;zgE0;zh1;zh2;zh3;zh4;zh5
zh6;zh7;zh8;zh9;zhA;zhB;zhC;zhD;zhE;zhF;zgF0;zh1;zh2;zh3;zh4;zh5;zh6;zh7;zh8;zh9;zhA;zhB;zhC;zhD
zhE;zhF;zf900;zh1;zh2;zh3;zh4;zh5;zh6;zh7;zh8;zh9;zhA;zhB;zhC;zhD;zhE;zhF;zg10;zh1;zh2;zh3;zh4;zh5
zh6;zh7;zh8;zh9;zhA;zhB;zhC;zhD;zhE;zhF;zg20;zh1;zh2;zh3;zh4;zh5;zh6;zh7;zh8;zh9;zhA;zhB;zhC;zhD
zhE;zhF;zg30;zh1;zh2;zh3;zh4;zh5;zh6;zh7;zh8;zh9;zhA;zhB;zhC;zhD;zhE;zhF;zg40;zh1;zh2;zh3;zh4;zh5
zh6;zh7;zh8;zh9;zhA;zhB;zhC;zhD;zhE;zhF;zg50;zh1;zh2;zh3;zh4;zh5;zh6;zh7;zh8;zh9;zhA;zhB;zhC;zhD
zhE;zhF;zg60;zh1;zh2;zh3;zh4;zh5;zh6;zh7;zh8;zh9;zhA;zhB;zhC;zhD;zhE;zhF;zg70;zh1;zh2;zh3;zh4;zh5
zh6;zh7;zh8;zh9;zhA;zhB;zhC;zhD;zhE;zhF;zg80;zh1;zh2;zh3;zh4;zh5;zh6;zh7;zh8;zh9;zhA;zhB;zhC;zhD
zhE;zhF;zg90;zh1;zh2;zh3;zh4;zh5;zh6;zh7;zh8;zh9;zhA;zhB;zhC;zhD;zhE;zhF;zgA0;zh1;zh2;zh3;zh4;zh5
zh6;zh7;zh8;zh9;zhA;zhB;zhC;zhD;zhE;zhF;zgB0;zh1;zh2;zh3;zh4;zh5;zh6;zh7;zh8;zh9;zhA;zhB;zhC;zhD
zhE;zhF;zgC0;zh1;zh2;zh3;zh4;zh5;zh6;zh7;zh8;zh9;zhA;zhB;zhC;zhD;zhE;zhF;zgD0;zh1;zh2;zh3;zh4;zh5
zh6;zh7;zh8;zh9;zhA;zhB;zhC;zhD;zhE;zhF;zgE0;zh1;zh2;zh3;zh4;zh5;zh6;zh7;zh8;zh9;zhA;zhB;zhC;zhD
zhE;zhF;zgF0;zh1;zh2;zh3;zh4;zh5;zh6;zh7;zh8;zh9;zhA;zhB;zhC;zhD;zhE;zhF;zfA00;zh1;zh2;zh3;zh4;zh5
zh6;zh7;zh8;zh9;zhA;zhB;zhC;zhD;zhE;zhF;zg10;zh1;zh2;zh3;zh4;zh5;zh6;zh7;zh8;zh9;zhA;zhB;zhC;zhD
B05E4aLANGUAGE TAG;1FaTAG SPACE;eEXCLAMATION MARK;eQUOTATION MARK;eNUMBER SIGN;eDOLLAR SIGN
ePERCENT SIGN;eAMPERSAND;fPOSTROPHE;eLEFT PARENTHESIS;eRIGHT PARENTHESIS;eASTERISK;ePLUS SIGN
eCOMMA;eHYPHEN-MINUS;eFULL STOP;eSOLIDUS;eDIGIT ZERO;kONE;kTWO;lHREE;kFOUR;lIVE;kSIX;lEVEN;kEIGHT
kNINE;eCOLON;eSEMICOLON;eLESS-THAN SIGN;eEQUALS SIGN;eGREATER-THAN SIGN;eQUESTION MARK
eCOMMERCIAL AT;eLATIN CAPITAL LETTER A;zaB;zaC;zaD;zaE;zaF;zaG;zaH;zaI;zaJ;zaK;zaL;zaM;zaN;zaO;zaP
zaQ;zaR;zaS;zaT;zaU;zaV;zaW;zaX;zaY;zaZ;fEFT SQUARE BRACKET;eREVERSE SOLIDUS;fIGHT SQUARE BRACKET
eCIRCUMFLEX ACCENT;eLOW LINE;eGRAVE ACCENT;eLATIN SMALL LETTER A;xB;xC;xD;xE;xF;xG;xH;xI;xJ;xK;xL
xM;xN;xO;xP;xQ;xR;xS;xT;xU;xV;xW;xX;xY;xZ;fEFT CURLY BRACKET;eVERTICAL LINE;eRIGHT CURLY BRACKET
eTILDE;aCANCEL TAG;81aVARIATION SELECTOR-17;0bS17;bARIATION SELECTOR-18;0bS18;bARIATION SELECTOR-19
0bS19;bARIATION SELECTOR-20;0bS20;bARIATION SELECTOR-21;0bS21;bARIATION SELECTOR-22;0bS22
bARIATION SELECTOR-23;0bS23;bARIATION SELECTOR-24;0bS24;bARIATION SELECTOR-25;0bS25
bARIATION SELECTOR-26;0bS26;bARIATION SELECTOR-27;0bS27;bARIATION SELECTOR-28;0bS28
bARIATION SELECTOR-29;0bS29;bARIATION SELECTOR-30;0bS30;bARIATION SELECTOR-31;0bS31
bARIATION SELECTOR-32;0bS32;bARIATION SELECTOR-33;0bS33;bARIATION SELECTOR-34;0bS34
bARIATION SELECTOR-35;0bS35;bARIATION SELECTOR-36;0bS36;bARIATION SELECTOR-37;0bS37
bARIATION SELECTOR-38;0bS38;bARIATION SELECTOR-39;0bS39;bARIATION SELECTOR-40;0bS40
bARIATION SELECTOR-41;0bS41;bARIATION SELECTOR-42;0bS42;bARIATION SELECTOR-43;0bS43
bARIATION SELECTOR-44;0bS44;bARIATION SELECTOR-45;0bS45;bARIATION SELECTOR-46;0bS46
bARIATION SELECTOR-47;0bS47;bARIATION SELECTOR-48;0bS48;bARIATION SELECTOR-49;0bS49
bARIATION SELECTOR-50;0bS50;bARIATION SELECTOR-51;0bS51;bARIATION SELECTOR-52;0bS52
bARIATION SELECTOR-53;0bS53;bARIATION SELECTOR-54;0bS54;bARIATION SELECTOR-55;0bS55
bARIATION SELECTOR-56;0bS56;bARIATION SELECTOR-57;0bS57;bARIATION SELECTOR-58;0bS58
bARIATION SELECTOR-59;0bS59;bARIATION SELECTOR-60;0bS60;bARIATION SELECTOR-61;0bS61
bARIATION SELECTOR-62;0bS62;bARIATION SELECTOR-63;0bS63;bARIATION SELECTOR-64;0bS64
bARIATION SELECTOR-65;0bS65;bARIATION SELECTOR-66;0bS66;bARIATION SELECTOR-67;0bS67
bARIATION SELECTOR-68;0bS68;bARIATION SELECTOR-69;0bS69;bARIATION SELECTOR-70;0bS70
bARIATION SELECTOR-71;0bS71;bARIATION SELECTOR-72;0bS72;bARIATION SELECTOR-73;0bS73
bARIATION SELECTOR-74;0bS74;bARIATION SELECTOR-75;0bS75;bARIATION SELECTOR-76;0bS76
bARIATION SELECTOR-77;0bS77;bARIATION SELECTOR-78;0bS78;bARIATION SELECTOR-79;0bS79
bARIATION SELECTOR-80;0bS80;bARIATION SELECTOR-81;0bS81;bARIATION SELECTOR-82;0bS82
bARIATION SELECTOR-83;0bS83;bARIATION SELECTOR-84;0bS84;bARIATION SELECTOR-85;0bS85
bARIATION SELECTOR-86;0bS86;bARIATION SELECTOR-87;0bS87;bARIATION SELECTOR-88;0bS88
bARIATION SELECTOR-89;0bS89;bARIATION SELECTOR-90;0bS90;bARIATION SELECTOR-91;0bS91
bARIATION SELECTOR-92;0bS92;bARIATION SELECTOR-93;0bS93;bARIATION SELECTOR-94;0bS94
bARIATION SELECTOR-95;0bS95;bARIATION SELECTOR-96;0bS96;bARIATION SELECTOR-97;0bS97
bARIATION SELECTOR-98;0bS98;bARIATION SELECTOR-99;0bS99;bARIATION SELECTOR-100;0bS100
bARIATION SELECTOR-101;0bS101;bARIATION SELECTOR-102;0bS102;bARIATION SELECTOR-103;0bS103
bARIATION SELECTOR-104;0bS104;bARIATION SELECTOR-105;0bS105;bARIATION SELECTOR-106;0bS106
bARIATION SELECTOR-107;0bS107;bARIATION SELECTOR-108;0bS108;bARIATION SELECTOR-109;0bS109
bARIATION SELECTOR-110;0bS110;bARIATION SELECTOR-111;0bS111;bARIATION SELECTOR-112;0bS112
bARIATION SELECTOR-113;0bS113;bARIATION SELECTOR-114;0bS114;bARIATION SELECTOR-115;0bS115
bARIATION SELECTOR-116;0bS116;bARIATION SELECTOR-117;0bS117;bARIATION SELECTOR-118;0bS118
bARIATION SELECTOR-119;0bS119;bARIATION SELECTOR-120;0bS120;bARIATION SELECTOR-121;0bS121
bARIATION SELECTOR-122;0bS122;bARIATION SELECTOR-123;0bS123;bARIATION SELECTOR-124;0bS124
bARIATION SELECTOR-125;0bS125;bARIATION SELECTOR-126;0bS126;bARIATION SELECTOR-127;0bS127
bARIATION SELECTOR-128;0bS128;bARIATION SELECTOR-129;0bS129;bARIATION SELECTOR-130;0bS130
bARIATION SELECTOR-131;0bS131;bARIATION SELECTOR-132;0bS132;bARIATION SELECTOR-133;0bS133
bARIATION SELECTOR-134;0bS134;bARIATION SELECTOR-135;0bS135;bARIATION SELECTOR-136;0bS136
bARIATION SELECTOR-137;0bS137;bARIATION SELECTOR-138;0bS138;bARIATION SELECTOR-139;0bS139
bARIATION SELECTOR-140;0bS140;bARIATION SELECTOR-141;0bS141;bARIATION SELECTOR-142;0bS142
bARIATION SELECTOR-143;0bS143;bARIATION SELECTOR-144;0bS144;bARIATION SELECTOR-145;0bS145
bARIATION SELECTOR-146;0bS146;bARIATION SELECTOR-147;0bS147;bARIATION SELECTOR-148;0bS148
bARIATION SELECTOR-149;0bS149;bARIATION SELECTOR-150;0bS150;bARIATION SELECTOR-151;0bS151
bARIATION SELECTOR-152;0bS152;bARIATION SELECTOR-153;0bS153;bARIATION SELECTOR-154;0bS154
bARIATION SELECTOR-155;0bS155;bARIATION SELECTOR-156;0bS156;bARIATION SELECTOR-157;0bS157
bARIATION SELECTOR-158;0bS158;bARIATION SELECTOR-159;0bS159;bARIATION SELECTOR-160;0bS160
bARIATION SELECTOR-161;0bS161;bARIATION SELECTOR-162;0bS162;bARIATION SELECTOR-163;0bS163
bARIATION SELECTOR-164;0bS164;bARIATION SELECTOR-165;0bS165;bARIATION SELECTOR-166;0bS166
bARIATION SELECTOR-167;0bS167;bARIATION SELECTOR-168;0bS168;bARIATION SELECTOR-169;0bS169
bARIATION SELECTOR-170;0bS170;bARIATION SELECTOR-171;0bS171;bARIATION SELECTOR-172;0bS172
bARIATION SELECTOR-173;0bS173;bARIATION SELECTOR-174;0bS174;bARIATION SELECTOR-175;0bS175
bARIATION SELECTOR-176;0bS176;bARIATION SELECTOR-177;0bS177;bARIATION SELECTOR-178;0bS178
bARIATION SELECTOR-179;0bS179;bARIATION SELECTOR-180;0bS180;bARIATION SELECTOR-181;0bS181
bARIATION SELECTOR-182;0bS182;bARIATION SELECTOR-183;0bS183;bARIATION SELECTOR-184;0bS184
bARIATION SELECTOR-185;0bS185;bARIATION SELECTOR-186;0bS186;bARIATION SELECTOR-187;0bS187
bARIATION SELECTOR-188;0bS188;bARIATION SELECTOR-189;0bS189;bARIATION SELECTOR-190;0bS190
bARIATION SELECTOR-191;0bS191;bARIATION SELECTOR-192;0bS192;bARIATION SELECTOR-193;0bS193
bARIATION SELECTOR-194;0bS194;bARIATION SELECTOR-195;0bS195;bARIATION SELECTOR-196;0bS196
bARIATION SELECTOR-197;0bS197;bARIATION SELECTOR-198;0bS198;bARIATION SELECTOR-199;0bS199
bARIATION SELECTOR-200;0bS200;bARIATION SELECTOR-201;0bS201;bARIATION SELECTOR-202;0bS202
bARIATION SELECTOR-203;0bS203;bARIATION SELECTOR-204;0bS204;bARIATION SELECTOR-205;0bS205
bARIATION SELECTOR-206;0bS206;bARIATION SELECTOR-207;0bS207;bARIATION SELECTOR-208;0bS208
bARIATION SELECTOR-209;0bS209;bARIATION SELECTOR-210;0bS210;bARIATION SELECTOR-211;0bS211
bARIATION SELECTOR-212;0bS212;bARIATION SELECTOR-213;0bS213;bARIATION SELECTOR-214;0bS214
bARIATION SELECTOR-215;0bS215;bARIATION SELECTOR-216;0bS216;bARIATION SELECTOR-217;0bS217
bARIATION SELECTOR-218;0bS218;bARIATION SELECTOR-219;0bS219;bARIATION SELECTOR-220;0bS220
bARIATION SELECTOR-221;0bS221;bARIATION SELECTOR-222;0bS222;bARIATION SELECTOR-223;0bS223
bARIATION SELECTOR-224;0bS224;bARIATION SELECTOR-225;0bS225;bARIATION SELECTOR-226;0bS226
bARIATION SELECTOR-227;0bS227;bARIATION SELECTOR-228;0bS228;bARIATION SELECTOR-229;0bS229
bARIATION SELECTOR-230;0bS230;bARIATION SELECTOR-231;0bS231;bARIATION SELECTOR-232;0bS232
bARIATION SELECTOR-233;0bS233;bARIATION SELECTOR-234;0bS234;bARIATION SELECTOR-235;0bS235
bARIATION SELECTOR-236;0bS236;bARIATION SELECTOR-237;0bS237;bARIATION SELECTOR-238;0bS238
bARIATION SELECTOR-239;0bS239;bARIATION SELECTOR-240;0bS240;bARIATION SELECTOR-241;0bS241
bARIATION SELECTOR-242;0bS242;bARIATION SELECTOR-243;0bS243;bARIATION SELECTOR-244;0bS244
bARIATION SELECTOR-245;0bS245;bARIATION SELECTOR-246;0bS246;bARIATION SELECTOR-247;0bS247
bARIATION SELECTOR-248;0bS248;bARIATION SELECTOR-249;0bS249;bARIATION SELECTOR-250;0bS250
bARIATION SELECTOR-251;0bS251;bARIATION SELECTOR-252;0bS252;bARIATION SELECTOR-253;0bS253
bARIATION SELECTOR-254;0bS254;bARIATION SELECTOR-255;0bS255;bARIATION SELECTOR-256;0bS256"

/-- A number and its name. -/
structure NamedNumber where
  number : Nat
  name : List Char

namespace NamedNumber

/-- The value of hexadecimal digits in capitals. -/
def distanceOf (digits : List Char) : Nat :=
  if digits.isEmpty then 1
  else digits.foldl (fun n c => n * 16 + ideographNumber?.digitOf c) 0

/-- The number and name of an entry behind another one. -/
def next (before : NamedNumber) (entry : List Char) : NamedNumber :=
  let digits := entry.takeWhile ideographNumber?.isDigit
  let value (c : Char) : Nat := c.toNat - 'a'.toNat
  let (kept, rest) := match entry.drop digits.length with
    | 'z' :: c :: rest => (25 + value c, rest)
    | c :: rest => (value c, rest)
    | [] => (0, [])
  ⟨before.number + distanceOf digits, before.name.take kept ++ rest⟩

/-- The number of a name among the entries behind another one. -/
def find? (name : List Char) : NamedNumber → List (List Char) → Option Nat
  | _, [] => none
  | before, entry :: entries =>
    let here := before.next entry
    if here.name == name then some here.number else find? name here entries

end NamedNumber

/-- The entries of a table. -/
def tableEntries (table : String) : List (List Char) :=
  table.toList.splitOnP fun c => c == ';' || c == '\n'

/-- The character of a name. -/
def characterNamed? (name : List Char) : Option Char :=
  let number? := (NamedNumber.find? (name.map Char.toUpper) ⟨0, []⟩ (tableEntries nameTable)).orElse
    fun _ => (ideographNumber? name).orElse fun _ => syllableNumber? name
  number?.map Char.ofNat

end Text

end ServiceStubs
