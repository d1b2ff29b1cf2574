import Lineage.Text.Names.Block

/-!
# Signs — names of signs
-/

set_option autoImplicit false

namespace Lineage.Text.Names

/-- Punctuation, currencies, letterlike signs, number forms, arrows and operators. -/
def signs : List Block := [
  ⟨0x2000, "EN QUAD
EM QUAD
EN SPACE
EM SPACE
THREE-PER-EM SPACE
FOUR-PER-EM SPACE
SIX-PER-EM SPACE
FIGURE SPACE
PUNCTUATION SPACE
THIN SPACE
HAIR SPACE
ZERO WIDTH SPACE
ZERO WIDTH NON-JOINER
ZERO WIDTH JOINER
LEFT-TO-RIGHT MARK
RIGHT-TO-LEFT MARK
HYPHEN
NON-BREAKING HYPHEN
FIGURE DASH
EN DASH
EM DASH
HORIZONTAL BAR
DOUBLE VERTICAL LINE
DOUBLE LOW LINE
LEFT SINGLE QUOTATION MARK
RIGHT SINGLE QUOTATION MARK
SINGLE LOW-9 QUOTATION MARK
SINGLE HIGH-REVERSED-9 QUOTATION MARK
LEFT DOUBLE QUOTATION MARK
RIGHT DOUBLE QUOTATION MARK
DOUBLE LOW-9 QUOTATION MARK
DOUBLE HIGH-REVERSED-9 QUOTATION MARK
DAGGER
DOUBLE DAGGER
BULLET
TRIANGULAR BULLET
ONE DOT LEADER
TWO DOT LEADER
HORIZONTAL ELLIPSIS
HYPHENATION POINT
LINE SEPARATOR
PARAGRAPH SEPARATOR
LEFT-TO-RIGHT EMBEDDING
RIGHT-TO-LEFT EMBEDDING
POP DIRECTIONAL FORMATTING
LEFT-TO-RIGHT OVERRIDE
RIGHT-TO-LEFT OVERRIDE
NARROW NO-BREAK SPACE
PER MILLE SIGN
PER TEN THOUSAND SIGN
PRIME
DOUBLE PRIME
TRIPLE PRIME
REVERSED PRIME
REVERSED DOUBLE PRIME
REVERSED TRIPLE PRIME
CARET
SINGLE LEFT-POINTING ANGLE QUOTATION MARK
SINGLE RIGHT-POINTING ANGLE QUOTATION MARK
REFERENCE MARK
DOUBLE EXCLAMATION MARK
INTERROBANG
OVERLINE
UNDERTIE
CHARACTER TIE
CARET INSERTION POINT
ASTERISM
HYPHEN BULLET
FRACTION SLASH
LEFT SQUARE BRACKET WITH QUILL
RIGHT SQUARE BRACKET WITH QUILL
DOUBLE QUESTION MARK
QUESTION EXCLAMATION MARK
EXCLAMATION QUESTION MARK
TIRONIAN SIGN ET
REVERSED PILCROW SIGN
BLACK LEFTWARDS BULLET
BLACK RIGHTWARDS BULLET
LOW ASTERISK
REVERSED SEMICOLON
CLOSE UP
TWO ASTERISKS ALIGNED VERTICALLY
COMMERCIAL MINUS SIGN
SWUNG DASH
INVERTED UNDERTIE
FLOWER PUNCTUATION MARK
THREE DOT PUNCTUATION
QUADRUPLE PRIME
FOUR DOT PUNCTUATION
FIVE DOT PUNCTUATION
TWO DOT PUNCTUATION
FOUR DOT MARK
DOTTED CROSS
TRICOLON
VERTICAL FOUR DOTS
MEDIUM MATHEMATICAL SPACE
WORD JOINER
FUNCTION APPLICATION
INVISIBLE TIMES
INVISIBLE SEPARATOR
INVISIBLE PLUS

LEFT-TO-RIGHT ISOLATE
RIGHT-TO-LEFT ISOLATE
FIRST STRONG ISOLATE
POP DIRECTIONAL ISOLATE
INHIBIT SYMMETRIC SWAPPING
ACTIVATE SYMMETRIC SWAPPING
INHIBIT ARABIC FORM SHAPING
ACTIVATE ARABIC FORM SHAPING
NATIONAL DIGIT SHAPES
NOMINAL DIGIT SHAPES"⟩,
  ⟨0x20a0, "EURO-CURRENCY SIGN
COLON SIGN
CRUZEIRO SIGN
FRENCH FRANC SIGN
LIRA SIGN
MILL SIGN
NAIRA SIGN
PESETA SIGN
RUPEE SIGN
WON SIGN
NEW SHEQEL SIGN
DONG SIGN
EURO SIGN
KIP SIGN
TUGRIK SIGN
DRACHMA SIGN
GERMAN PENNY SIGN
PESO SIGN
GUARANI SIGN
AUSTRAL SIGN
HRYVNIA SIGN
CEDI SIGN
LIVRE TOURNOIS SIGN
SPESMILO SIGN
TENGE SIGN
INDIAN RUPEE SIGN
TURKISH LIRA SIGN
NORDIC MARK SIGN
MANAT SIGN
RUBLE SIGN
LARI SIGN
BITCOIN SIGN
SOM SIGN"⟩,
  ⟨0x2100, "ACCOUNT OF
ADDRESSED TO THE SUBJECT
DOUBLE-STRUCK CAPITAL C
DEGREE CELSIUS
CENTRE LINE SYMBOL
CARE OF
CADA UNA
EULER CONSTANT
SCRUPLE
DEGREE FAHRENHEIT
SCRIPT SMALL G
SCRIPT CAPITAL H
BLACK-LETTER CAPITAL H
DOUBLE-STRUCK CAPITAL H
PLANCK CONSTANT
PLANCK CONSTANT OVER TWO PI
SCRIPT CAPITAL I
BLACK-LETTER CAPITAL I
SCRIPT CAPITAL L
SCRIPT SMALL L
L B BAR SYMBOL
DOUBLE-STRUCK CAPITAL N
NUMERO SIGN
SOUND RECORDING COPYRIGHT
SCRIPT CAPITAL P
DOUBLE-STRUCK CAPITAL P
DOUBLE-STRUCK CAPITAL Q
SCRIPT CAPITAL R
BLACK-LETTER CAPITAL R
DOUBLE-STRUCK CAPITAL R
PRESCRIPTION TAKE
RESPONSE
SERVICE MARK
TELEPHONE SIGN
TRADE MARK SIGN
VERSICLE
DOUBLE-STRUCK CAPITAL Z
OUNCE SIGN
OHM SIGN
INVERTED OHM SIGN
BLACK-LETTER CAPITAL Z
TURNED GREEK SMALL LETTER IOTA
KELVIN SIGN
ANGSTROM SIGN
SCRIPT CAPITAL B
BLACK-LETTER CAPITAL C
ESTIMATED SYMBOL
SCRIPT SMALL E
SCRIPT CAPITAL E
SCRIPT CAPITAL F
TURNED CAPITAL F
SCRIPT CAPITAL M
SCRIPT SMALL O
ALEF SYMBOL
BET SYMBOL
GIMEL SYMBOL
DALET SYMBOL
INFORMATION SOURCE
ROTATED CAPITAL Q
FACSIMILE SIGN
DOUBLE-STRUCK SMALL PI
DOUBLE-STRUCK SMALL GAMMA
DOUBLE-STRUCK CAPITAL GAMMA
DOUBLE-STRUCK CAPITAL PI
DOUBLE-STRUCK N-ARY SUMMATION
TURNED SANS-SERIF CAPITAL G
TURNED SANS-SERIF CAPITAL L
REVERSED SANS-SERIF CAPITAL L
TURNED SANS-SERIF CAPITAL Y
DOUBLE-STRUCK ITALIC CAPITAL D
DOUBLE-STRUCK ITALIC SMALL D
DOUBLE-STRUCK ITALIC SMALL E
DOUBLE-STRUCK ITALIC SMALL I
DOUBLE-STRUCK ITALIC SMALL J
PROPERTY LINE
TURNED AMPERSAND
PER SIGN
AKTIESELSKAB
TURNED SMALL F
SYMBOL FOR SAMARITAN SOURCE"⟩,
  ⟨0x2150, "VULGAR FRACTION ONE SEVENTH
VULGAR FRACTION ONE NINTH
VULGAR FRACTION ONE TENTH
VULGAR FRACTION ONE THIRD
VULGAR FRACTION TWO THIRDS
VULGAR FRACTION ONE FIFTH
VULGAR FRACTION TWO FIFTHS
VULGAR FRACTION THREE FIFTHS
VULGAR FRACTION FOUR FIFTHS
VULGAR FRACTION ONE SIXTH
VULGAR FRACTION FIVE SIXTHS
VULGAR FRACTION ONE EIGHTH
VULGAR FRACTION THREE EIGHTHS
VULGAR FRACTION FIVE EIGHTHS
VULGAR FRACTION SEVEN EIGHTHS
FRACTION NUMERATOR ONE
ROMAN NUMERAL ONE
ROMAN NUMERAL TWO
ROMAN NUMERAL THREE
ROMAN NUMERAL FOUR
ROMAN NUMERAL FIVE
ROMAN NUMERAL SIX
ROMAN NUMERAL SEVEN
ROMAN NUMERAL EIGHT
ROMAN NUMERAL NINE
ROMAN NUMERAL TEN
ROMAN NUMERAL ELEVEN
ROMAN NUMERAL TWELVE
ROMAN NUMERAL FIFTY
ROMAN NUMERAL ONE HUNDRED
ROMAN NUMERAL FIVE HUNDRED
ROMAN NUMERAL ONE THOUSAND
SMALL ROMAN NUMERAL ONE
SMALL ROMAN NUMERAL TWO
SMALL ROMAN NUMERAL THREE
SMALL ROMAN NUMERAL FOUR
SMALL ROMAN NUMERAL FIVE
SMALL ROMAN NUMERAL SIX
SMALL ROMAN NUMERAL SEVEN
SMALL ROMAN NUMERAL EIGHT
SMALL ROMAN NUMERAL NINE
SMALL ROMAN NUMERAL TEN
SMALL ROMAN NUMERAL ELEVEN
SMALL ROMAN NUMERAL TWELVE
SMALL ROMAN NUMERAL FIFTY
SMALL ROMAN NUMERAL ONE HUNDRED
SMALL ROMAN NUMERAL FIVE HUNDRED
SMALL ROMAN NUMERAL ONE THOUSAND
ROMAN NUMERAL ONE THOUSAND C D
ROMAN NUMERAL FIVE THOUSAND
ROMAN NUMERAL TEN THOUSAND
ROMAN NUMERAL REVERSED ONE HUNDRED
LATIN SMALL LETTER REVERSED C
ROMAN NUMERAL SIX LATE FORM
ROMAN NUMERAL FIFTY EARLY FORM
ROMAN NUMERAL FIFTY THOUSAND
ROMAN NUMERAL ONE HUNDRED THOUSAND
VULGAR FRACTION ZERO THIRDS
TURNED DIGIT TWO
TURNED DIGIT THREE"⟩,
  ⟨0x2190, "LEFTWARDS ARROW
UPWARDS ARROW
RIGHTWARDS ARROW
DOWNWARDS ARROW
LEFT RIGHT ARROW
UP DOWN ARROW
NORTH WEST ARROW
NORTH EAST ARROW
SOUTH EAST ARROW
SOUTH WEST ARROW
LEFTWARDS ARROW WITH STROKE
RIGHTWARDS ARROW WITH STROKE
LEFTWARDS WAVE ARROW
RIGHTWARDS WAVE ARROW
LEFTWARDS TWO HEADED ARROW
UPWARDS TWO HEADED ARROW
RIGHTWARDS TWO HEADED ARROW
DOWNWARDS TWO HEADED ARROW
LEFTWARDS ARROW WITH TAIL
RIGHTWARDS ARROW WITH TAIL
LEFTWARDS ARROW FROM BAR
UPWARDS ARROW FROM BAR
RIGHTWARDS ARROW FROM BAR
DOWNWARDS ARROW FROM BAR
UP DOWN ARROW WITH BASE
LEFTWARDS ARROW WITH HOOK
RIGHTWARDS ARROW WITH HOOK
LEFTWARDS ARROW WITH LOOP
RIGHTWARDS ARROW WITH LOOP
LEFT RIGHT WAVE ARROW
LEFT RIGHT ARROW WITH STROKE
DOWNWARDS ZIGZAG ARROW
UPWARDS ARROW WITH TIP LEFTWARDS
UPWARDS ARROW WITH TIP RIGHTWARDS
DOWNWARDS ARROW WITH TIP LEFTWARDS
DOWNWARDS ARROW WITH TIP RIGHTWARDS
RIGHTWARDS ARROW WITH CORNER DOWNWARDS
DOWNWARDS ARROW WITH CORNER LEFTWARDS
ANTICLOCKWISE TOP SEMICIRCLE ARROW
CLOCKWISE TOP SEMICIRCLE ARROW
NORTH WEST ARROW TO LONG BAR
LEFTWARDS ARROW TO BAR OVER RIGHTWARDS ARROW TO BAR
ANTICLOCKWISE OPEN CIRCLE ARROW
CLOCKWISE OPEN CIRCLE ARROW
LEFTWARDS HARPOON WITH BARB UPWARDS
LEFTWARDS HARPOON WITH BARB DOWNWARDS
UPWARDS HARPOON WITH BARB RIGHTWARDS
UPWARDS HARPOON WITH BARB LEFTWARDS
RIGHTWARDS HARPOON WITH BARB UPWARDS
RIGHTWARDS HARPOON WITH BARB DOWNWARDS
DOWNWARDS HARPOON WITH BARB RIGHTWARDS
DOWNWARDS HARPOON WITH BARB LEFTWARDS
RIGHTWARDS ARROW OVER LEFTWARDS ARROW
UPWARDS ARROW LEFTWARDS OF DOWNWARDS ARROW
LEFTWARDS ARROW OVER RIGHTWARDS ARROW
LEFTWARDS PAIRED ARROWS
UPWARDS PAIRED ARROWS
RIGHTWARDS PAIRED ARROWS
DOWNWARDS PAIRED ARROWS
LEFTWARDS HARPOON OVER RIGHTWARDS HARPOON
RIGHTWARDS HARPOON OVER LEFTWARDS HARPOON
LEFTWARDS DOUBLE ARROW WITH STROKE
LEFT RIGHT DOUBLE ARROW WITH STROKE
RIGHTWARDS DOUBLE ARROW WITH STROKE
LEFTWARDS DOUBLE ARROW
UPWARDS DOUBLE ARROW
RIGHTWARDS DOUBLE ARROW
DOWNWARDS DOUBLE ARROW
LEFT RIGHT DOUBLE ARROW
UP DOWN DOUBLE ARROW
NORTH WEST DOUBLE ARROW
NORTH EAST DOUBLE ARROW
SOUTH EAST DOUBLE ARROW
SOUTH WEST DOUBLE ARROW
LEFTWARDS TRIPLE ARROW
RIGHTWARDS TRIPLE ARROW
LEFTWARDS SQUIGGLE ARROW
RIGHTWARDS SQUIGGLE ARROW
UPWARDS ARROW WITH DOUBLE STROKE
DOWNWARDS ARROW WITH DOUBLE STROKE
LEFTWARDS DASHED ARROW
UPWARDS DASHED ARROW
RIGHTWARDS DASHED ARROW
DOWNWARDS DASHED ARROW
LEFTWARDS ARROW TO BAR
RIGHTWARDS ARROW TO BAR
LEFTWARDS WHITE ARROW
UPWARDS WHITE ARROW
RIGHTWARDS WHITE ARROW
DOWNWARDS WHITE ARROW
UPWARDS WHITE ARROW FROM BAR
UPWARDS WHITE ARROW ON PEDESTAL
UPWARDS WHITE ARROW ON PEDESTAL WITH HORIZONTAL BAR
UPWARDS WHITE ARROW ON PEDESTAL WITH VERTICAL BAR
UPWARDS WHITE DOUBLE ARROW
UPWARDS WHITE DOUBLE ARROW ON PEDESTAL
RIGHTWARDS WHITE ARROW FROM WALL
NORTH WEST ARROW TO CORNER
SOUTH EAST ARROW TO CORNER
UP DOWN WHITE ARROW
RIGHT ARROW WITH SMALL CIRCLE
DOWNWARDS ARROW LEFTWARDS OF UPWARDS ARROW
THREE RIGHTWARDS ARROWS
LEFTWARDS ARROW WITH VERTICAL STROKE
RIGHTWARDS ARROW WITH VERTICAL STROKE
LEFT RIGHT ARROW WITH VERTICAL STROKE
LEFTWARDS ARROW WITH DOUBLE VERTICAL STROKE
RIGHTWARDS ARROW WITH DOUBLE VERTICAL STROKE
LEFT RIGHT ARROW WITH DOUBLE VERTICAL STROKE
LEFTWARDS OPEN-HEADED ARROW
RIGHTWARDS OPEN-HEADED ARROW
LEFT RIGHT OPEN-HEADED ARROW"⟩,
  ⟨0x2200, "FOR ALL
COMPLEMENT
PARTIAL DIFFERENTIAL
THERE EXISTS
THERE DOES NOT EXIST
EMPTY SET
INCREMENT
NABLA
ELEMENT OF
NOT AN ELEMENT OF
SMALL ELEMENT OF
CONTAINS AS MEMBER
DOES NOT CONTAIN AS MEMBER
SMALL CONTAINS AS MEMBER
END OF PROOF
N-ARY PRODUCT
N-ARY COPRODUCT
N-ARY SUMMATION
MINUS SIGN
MINUS-OR-PLUS SIGN
DOT PLUS
DIVISION SLASH
SET MINUS
ASTERISK OPERATOR
RING OPERATOR
BULLET OPERATOR
SQUARE ROOT
CUBE ROOT
FOURTH ROOT
PROPORTIONAL TO
INFINITY
RIGHT ANGLE
ANGLE
MEASURED ANGLE
SPHERICAL ANGLE
DIVIDES
DOES NOT DIVIDE
PARALLEL TO
NOT PARALLEL TO
LOGICAL AND
LOGICAL OR
INTERSECTION
UNION
INTEGRAL
DOUBLE INTEGRAL
TRIPLE INTEGRAL
CONTOUR INTEGRAL
SURFACE INTEGRAL
VOLUME INTEGRAL
CLOCKWISE INTEGRAL
CLOCKWISE CONTOUR INTEGRAL
ANTICLOCKWISE CONTOUR INTEGRAL
THEREFORE
BECAUSE
RATIO
PROPORTION
DOT MINUS
EXCESS
GEOMETRIC PROPORTION
HOMOTHETIC
TILDE OPERATOR
REVERSED TILDE
INVERTED LAZY S
SINE WAVE
WREATH PRODUCT
NOT TILDE
MINUS TILDE
ASYMPTOTICALLY EQUAL TO
NOT ASYMPTOTICALLY EQUAL TO
APPROXIMATELY EQUAL TO
APPROXIMATELY BUT NOT ACTUALLY EQUAL TO
NEITHER APPROXIMATELY NOR ACTUALLY EQUAL TO
ALMOST EQUAL TO
NOT ALMOST EQUAL TO
ALMOST EQUAL OR EQUAL TO
TRIPLE TILDE
ALL EQUAL TO
EQUIVALENT TO
GEOMETRICALLY EQUIVALENT TO
DIFFERENCE BETWEEN
APPROACHES THE LIMIT
GEOMETRICALLY EQUAL TO
APPROXIMATELY EQUAL TO OR THE IMAGE OF
IMAGE OF OR APPROXIMATELY EQUAL TO
COLON EQUALS
EQUALS COLON
RING IN EQUAL TO
RING EQUAL TO
CORRESPONDS TO
ESTIMATES
EQUIANGULAR TO
STAR EQUALS
DELTA EQUAL TO
EQUAL TO BY DEFINITION
MEASURED BY
QUESTIONED EQUAL TO
NOT EQUAL TO
IDENTICAL TO
NOT IDENTICAL TO
STRICTLY EQUIVALENT TO
LESS-THAN OR EQUAL TO
GREATER-THAN OR EQUAL TO
LESS-THAN OVER EQUAL TO
GREATER-THAN OVER EQUAL TO
LESS-THAN BUT NOT EQUAL TO
GREATER-THAN BUT NOT EQUAL TO
MUCH LESS-THAN
MUCH GREATER-THAN
BETWEEN
NOT EQUIVALENT TO
NOT LESS-THAN
NOT GREATER-THAN
NEITHER LESS-THAN NOR EQUAL TO
NEITHER GREATER-THAN NOR EQUAL TO
LESS-THAN OR EQUIVALENT TO
GREATER-THAN OR EQUIVALENT TO
NEITHER LESS-THAN NOR EQUIVALENT TO
NEITHER GREATER-THAN NOR EQUIVALENT TO
LESS-THAN OR GREATER-THAN
GREATER-THAN OR LESS-THAN
NEITHER LESS-THAN NOR GREATER-THAN
NEITHER GREATER-THAN NOR LESS-THAN
PRECEDES
SUCCEEDS
PRECEDES OR EQUAL TO
SUCCEEDS OR EQUAL TO
PRECEDES OR EQUIVALENT TO
SUCCEEDS OR EQUIVALENT TO
DOES NOT PRECEDE
DOES NOT SUCCEED
SUBSET OF
SUPERSET OF
NOT A SUBSET OF
NOT A SUPERSET OF
SUBSET OF OR EQUAL TO
SUPERSET OF OR EQUAL TO
NEITHER A SUBSET OF NOR EQUAL TO
NEITHER A SUPERSET OF NOR EQUAL TO
SUBSET OF WITH NOT EQUAL TO
SUPERSET OF WITH NOT EQUAL TO
MULTISET
MULTISET MULTIPLICATION
MULTISET UNION
SQUARE IMAGE OF
SQUARE ORIGINAL OF
SQUARE IMAGE OF OR EQUAL TO
SQUARE ORIGINAL OF OR EQUAL TO
SQUARE CAP
SQUARE CUP
CIRCLED PLUS
CIRCLED MINUS
CIRCLED TIMES
CIRCLED DIVISION SLASH
CIRCLED DOT OPERATOR
CIRCLED RING OPERATOR
CIRCLED ASTERISK OPERATOR
CIRCLED EQUALS
CIRCLED DASH
SQUARED PLUS
SQUARED MINUS
SQUARED TIMES
SQUARED DOT OPERATOR
RIGHT TACK
LEFT TACK
DOWN TACK
UP TACK
ASSERTION
MODELS
TRUE
FORCES
TRIPLE VERTICAL BAR RIGHT TURNSTILE
DOUBLE VERTICAL BAR DOUBLE RIGHT TURNSTILE
DOES NOT PROVE
NOT TRUE
DOES NOT FORCE
NEGATED DOUBLE VERTICAL BAR DOUBLE RIGHT TURNSTILE
PRECEDES UNDER RELATION
SUCCEEDS UNDER RELATION
NORMAL SUBGROUP OF
CONTAINS AS NORMAL SUBGROUP
NORMAL SUBGROUP OF OR EQUAL TO
CONTAINS AS NORMAL SUBGROUP OR EQUAL TO
ORIGINAL OF
IMAGE OF
MULTIMAP
HERMITIAN CONJUGATE MATRIX
INTERCALATE
XOR
NAND
NOR
RIGHT ANGLE WITH ARC
RIGHT TRIANGLE
N-ARY LOGICAL AND
N-ARY LOGICAL OR
N-ARY INTERSECTION
N-ARY UNION
DIAMOND OPERATOR
DOT OPERATOR
STAR OPERATOR
DIVISION TIMES
BOWTIE
LEFT NORMAL FACTOR SEMIDIRECT PRODUCT
RIGHT NORMAL FACTOR SEMIDIRECT PRODUCT
LEFT SEMIDIRECT PRODUCT
RIGHT SEMIDIRECT PRODUCT
REVERSED TILDE EQUALS
CURLY LOGICAL OR
CURLY LOGICAL AND
DOUBLE SUBSET
DOUBLE SUPERSET
DOUBLE INTERSECTION
DOUBLE UNION
PITCHFORK
EQUAL AND PARALLEL TO
LESS-THAN WITH DOT
GREATER-THAN WITH DOT
VERY MUCH LESS-THAN
VERY MUCH GREATER-THAN
LESS-THAN EQUAL TO OR GREATER-THAN
GREATER-THAN EQUAL TO OR LESS-THAN
EQUAL TO OR LESS-THAN
EQUAL TO OR GREATER-THAN
EQUAL TO OR PRECEDES
EQUAL TO OR SUCCEEDS
DOES NOT PRECEDE OR EQUAL
DOES NOT SUCCEED OR EQUAL
NOT SQUARE IMAGE OF OR EQUAL TO
NOT SQUARE ORIGINAL OF OR EQUAL TO
SQUARE IMAGE OF OR NOT EQUAL TO
SQUARE ORIGINAL OF OR NOT EQUAL TO
LESS-THAN BUT NOT EQUIVALENT TO
GREATER-THAN BUT NOT EQUIVALENT TO
PRECEDES BUT NOT EQUIVALENT TO
SUCCEEDS BUT NOT EQUIVALENT TO
NOT NORMAL SUBGROUP OF
DOES NOT CONTAIN AS NORMAL SUBGROUP
NOT NORMAL SUBGROUP OF OR EQUAL TO
DOES NOT CONTAIN AS NORMAL SUBGROUP OR EQUAL
VERTICAL ELLIPSIS
MIDLINE HORIZONTAL ELLIPSIS
UP RIGHT DIAGONAL ELLIPSIS
DOWN RIGHT DIAGONAL ELLIPSIS
ELEMENT OF WITH LONG HORIZONTAL STROKE
ELEMENT OF WITH VERTICAL BAR AT END OF HORIZONTAL STROKE
SMALL ELEMENT OF WITH VERTICAL BAR AT END OF HORIZONTAL STROKE
ELEMENT OF WITH DOT ABOVE
ELEMENT OF WITH OVERBAR
SMALL ELEMENT OF WITH OVERBAR
ELEMENT OF WITH UNDERBAR
ELEMENT OF WITH TWO HORIZONTAL STROKES
CONTAINS WITH LONG HORIZONTAL STROKE
CONTAINS WITH VERTICAL BAR AT END OF HORIZONTAL STROKE
SMALL CONTAINS WITH VERTICAL BAR AT END OF HORIZONTAL STROKE
CONTAINS WITH OVERBAR
SMALL CONTAINS WITH OVERBAR
Z NOTATION BAG MEMBERSHIP"⟩,
  ⟨0x3000, "IDEOGRAPHIC SPACE
IDEOGRAPHIC COMMA
IDEOGRAPHIC FULL STOP
DITTO MARK
JAPANESE INDUSTRIAL STANDARD SYMBOL
IDEOGRAPHIC ITERATION MARK
IDEOGRAPHIC CLOSING MARK
IDEOGRAPHIC NUMBER ZERO
LEFT ANGLE BRACKET
RIGHT ANGLE BRACKET
LEFT DOUBLE ANGLE BRACKET
RIGHT DOUBLE ANGLE BRACKET
LEFT CORNER BRACKET
RIGHT CORNER BRACKET
LEFT WHITE CORNER BRACKET
RIGHT WHITE CORNER BRACKET
LEFT BLACK LENTICULAR BRACKET
RIGHT BLACK LENTICULAR BRACKET
POSTAL MARK
GETA MARK
LEFT TORTOISE SHELL BRACKET
RIGHT TORTOISE SHELL BRACKET
LEFT WHITE LENTICULAR BRACKET
RIGHT WHITE LENTICULAR BRACKET
LEFT WHITE TORTOISE SHELL BRACKET
RIGHT WHITE TORTOISE SHELL BRACKET
LEFT WHITE SQUARE BRACKET
RIGHT WHITE SQUARE BRACKET
WAVE DASH
REVERSED DOUBLE PRIME QUOTATION MARK
DOUBLE PRIME QUOTATION MARK
LOW DOUBLE PRIME QUOTATION MARK
POSTAL MARK FACE
HANGZHOU NUMERAL ONE
HANGZHOU NUMERAL TWO
HANGZHOU NUMERAL THREE
HANGZHOU NUMERAL FOUR
HANGZHOU NUMERAL FIVE
HANGZHOU NUMERAL SIX
HANGZHOU NUMERAL SEVEN
HANGZHOU NUMERAL EIGHT
HANGZHOU NUMERAL NINE
IDEOGRAPHIC LEVEL TONE MARK
IDEOGRAPHIC RISING TONE MARK
IDEOGRAPHIC DEPARTING TONE MARK
IDEOGRAPHIC ENTERING TONE MARK
HANGUL SINGLE DOT TONE MARK
HANGUL DOUBLE DOT TONE MARK
WAVY DASH
VERTICAL KANA REPEAT MARK
VERTICAL KANA REPEAT WITH VOICED SOUND MARK
VERTICAL KANA REPEAT MARK UPPER HALF
VERTICAL KANA REPEAT WITH VOICED SOUND MARK UPPER HALF
VERTICAL KANA REPEAT MARK LOWER HALF
CIRCLED POSTAL MARK
IDEOGRAPHIC TELEGRAPH LINE FEED SEPARATOR SYMBOL
HANGZHOU NUMERAL TEN
HANGZHOU NUMERAL TWENTY
HANGZHOU NUMERAL THIRTY
VERTICAL IDEOGRAPHIC ITERATION MARK
MASU MARK
PART ALTERNATION MARK
IDEOGRAPHIC VARIATION INDICATOR
IDEOGRAPHIC HALF FILL SPACE"⟩]

end Lineage.Text.Names
