/-! Names of characters, written as an outline: words, and headings with the words that may follow
them. A heading opens a bracket, alternatives are divided by slashes, an underscore is a blank, and
numbers from one to another have a colon between them. A heading with an equals sign is itself a
name. -/
namespace EventFilter.Text

/-- Names by the letter that they begin with. -/
def characterOutline : List (Char × String) := [
  ('A', "ABACUS ACCORDION ACCOUNT_OF ACK ACKNOWLEDGE AC_CURRENT ADDRESSED_TO_THE_SUBJECT
    ADHESIVE_BANDAGE ADI_SHAKTI ADMETOS ADMISSION_TICKETS ADULT AERIAL_TRAMWAY AKTIESELSKAB
    ALARM_CLOCK ALEMBIC ALERT ALIEN_MONSTER ALM ALTERNATE_ONE-WAY_LEFT_WAY_TRAFFIC
    ALTERNATIVE_KEY_SYMBOL AMALGAMATION_OR_COPRODUCT AMBULANCE AMERICAN_FOOTBALL AMPERSAND AMPHORA
    ANATOMICAL_HEART ANCHOR AND_WITH_DOT ANKH ANT ANTENNA_WITH_BARS APC APOLLON APOSTROPHE
    APPLICATION_PROGRAM_COMMAND APPROACHES_THE_LIMIT AQUARIUS ARC ARIES ARROWHEAD-SHAPED_POINTER
    ARTICULATED_LORRY ARTIST_PALETTE ASCENDING_NODE ASSERTION ASTERISM ASTRAEA
    ASTRONOMICAL_SYMBOL_FOR_URANUS ASYMPTOTICALLY_EQUAL_TO ATHLETIC_SHOE AUBERGINE
    AUTOMATED_TELLER_MACHINE AUTOMOBILE AUTO_RICKSHAW AVOCADO AXE ACTIVATE( ARABIC_FORM_SHAPING
    SYMMETRIC_SWAPPING ) ACUTE( ACCENT ANGLE ) ADLAM( CONSONANT_MODIFIER
    GEMINATE_CONSONANT_MODIFIER HAMZA NUKTA ALIF/VOWEL( LENGTHENER ) CAPITAL/SMALL( LETTER( ALIF
    BA BHE CHI DAALI DHA E FA GA GBE HA I JIIM KAF KHA KPO LAAM MIIM NHA NUN NYA O PE QAAF RA SHA
    SINNYIIYHE TU U VA WAW YA YHE ZAL ) ) DIGIT( EIGHT FIVE FOUR NINE ONE SEVEN SIX THREE TWO ZERO
    ) GEMINATION/NASALIZATION( MARK ) INITIAL( EXCLAMATION/QUESTION( MARK ) ) ) AEGEAN( CHECK_MARK
    DRY/LIQUID( MEASURE_FIRST_SUBUNIT ) MEASURE( SECOND/THIRD( SUBUNIT ) ) NUMBER(
    EIGHT/FIVE/FOUR/NINE/ONE/SEVEN/SIX/THREE/TWO=( HUNDRED THOUSAND )
    EIGHTY/FIFTY/FORTY/NINETY/SEVENTY/SIXTY/TEN/THIRTY/TWENTY=( THOUSAND ) ) WEIGHT( BASE_UNIT
    FIRST/FOURTH/SECOND/THIRD( SUBUNIT ) ) WORD_SEPARATOR( DOT LINE ) ) AFGHANI/ANGSTROM/AUSTRAL(
    SIGN ) AHOM( SYMBOL_VI CONSONANT_SIGN_MEDIAL( LA LIGATING_RA RA ) DIGIT( EIGHT FIVE FOUR NINE
    ONE SEVEN SIX THREE TWO ZERO ) LETTER( A BA BHA CA CHA DA DDA DDHA DHA GA GHA HA JA JHA KA KHA
    LA LLA MA NA NGA NNA NYA PA PHA RA SA TA THA TTA TTHA ALTERNATE( BA GA TA ) ) NUMBER( TEN
    TWENTY ) SIGN( KILLER RULAI SECTION SMALL_SECTION ) VOWEL_SIGN( A AA AI AM AW E I II O U UU )
    ) AIRPLANE=( ARRIVING DEPARTURE ) ALCHEMICAL_SYMBOL_FOR( AIR ALEMBIC ALKALI ALKALI-2 ALUM
    AMALGAM AQUAFORTIS ARSENIC ASHES AURIPIGMENT BORAX BORAX-2 BORAX-3 BRICK CADUCEUS CALX
    CAPUT_MORTUUM CINNABAR CRUCIBLE CRUCIBLE-2:5 DAY-NIGHT DISSOLVE DISSOLVE-2 DISTILL EARTH FIRE
    GOLD GUM HORSE_DUNG HOUR LODESTONE MARCASITE MONTH NIGHT NITRE OIL POT_ASHES POWDER
    POWDERED_BRICK PRECIPITATE PURIFY PUTREFACTION QUICK_LIME QUINTESSENCE REALGAR REALGAR-2
    REGULUS-2:4 RETORT SAL-AMMONIAC SCEPTER_OF_JOVE SILVER SOAP SPIRIT STARRED_TRIDENT SUBLIMATION
    SULFUR TARTAR TARTAR-2 TINCTURE TRIDENT TUTTY URINE VERDIGRIS VINEGAR-2 VINEGAR-3 VITRIOL
    VITRIOL-2 WATER WAX ANTIMONY/BISMUTH/IRON-COPPER/LEAD/TIN( ORE ) AQUA( REGIA REGIA-2 VITAE
    VITAE-2 ) BATH_OF( MARY VAPOURS ) BLACK/PHILOSOPHERS( SULFUR ) COPPER( ANTIMONIATE ORE )
    CROCUS_OF( COPPER COPPER-2 IRON ) HALF( DRAM OUNCE ) IRON( ORE ORE-2 ) MERCURY( SUBLIMATE
    SUBLIMATE-2 SUBLIMATE-3 ) REGULUS=( OF( ANTIMONY ANTIMONY-2 IRON ) ) ROCK( SALT SALT-2 )
    SALT=( OF( ANTIMONY COPPER_ANTIMONIATE ) ) STRATUM_SUPER( STRATUM STRATUM-2 ) SUBLIMATE_OF(
    ANTIMONY COPPER SALT_OF( ANTIMONY COPPER ) ) VINEGAR=( OF_ANTIMONY ) ) ALEF/ANGER/ASCIA/ATOM(
    SYMBOL ) ALL( AROUND-PROFILE EQUAL_TO ) ALMOST_EQUAL( OR_EQUAL_TO TO=( WITH_CIRCUMFLEX_ACCENT
    ) ) ANATOLIAN_HIEROGLYPH( A001:099 A010A A026A A039A A041A A045A A046A A046B A066A A066B A066C
    A097A A098A A100:331 A100A A101A A102A A104A A104B A104C A105A A105B A107A A107B A107C A110A
    A110B A115A A125A A135A A202A A202B A207A A209A A215A A216A A227A A267A A289A A294A A299A
    A309A A329A A332A A332B A332C A333:382 A336A A336B A336C A359A A364A A368A A371A A381A A383A
    A383_RA_OR_RI A384:392 A386A A393_EIGHT A394:409 A410A_END_LOGOGRAM_MARK
    A410_BEGIN_LOGOGRAM_MARK A411:497 A450A A457A A501:530 ) ANGLE=( WITH( S_INSIDE UNDERBAR ) )
    ANGRY/ANGUISHED/ASTONISHED( FACE ) ANTICLOCKWISE( CONTOUR_INTEGRAL
    DOWNWARDS_AND_UPWARDS_OPEN_CIRCLE_ARROWS INTEGRATION TOP_SEMICIRCLE_ARROW CLOSED/GAPPED/OPEN(
    CIRCLE_ARROW ) TRIANGLE-HEADED( OPEN_CIRCLE_ARROW BOTTOM/LEFT/RIGHT/TOP( U-SHAPED_ARROW ) ) )
    APL_FUNCTIONAL_SYMBOL( I-BEAM LEFT_SHOE_STILE RHO SQUISH_QUAD STILE_TILDE ZILDE
    ALPHA/IOTA/OMEGA=( UNDERBAR ) BACKSLASH/COMMA/SLASH( BAR ) CIRCLE( BACKSLASH DIAERESIS JOT
    STAR STILE UNDERBAR ) DEL( DIAERESIS STILE TILDE ) DELTA( STILE UNDERBAR )
    DIAMOND/EPSILON/SEMICOLON( UNDERBAR ) DOWN( CARET_TILDE SHOE_STILE TACK( JOT UNDERBAR ) )
    DOWNWARDS/LEFTWARDS/RIGHTWARDS/UPWARDS( VANE ) GREATER-THAN/STAR/TILDE( DIAERESIS ) JOT(
    DIAERESIS UNDERBAR ) QUAD=( BACKSLASH CIRCLE COLON DEL DELTA DIAMOND DIVIDE EQUAL GREATER-THAN
    JOT LESS-THAN NOT_EQUAL QUESTION SLASH DOWN/UP( CARET )
    DOWNWARDS/LEFTWARDS/RIGHTWARDS/UPWARDS( ARROW ) ) QUOTE( QUAD UNDERBAR ) UP( CARET_TILDE
    SHOE_JOT TACK( DIAERESIS JOT OVERBAR ) ) ) APPROXIMATELY( BUT_NOT_ACTUALLY_EQUAL_TO EQUAL(
    OR_EQUAL_TO TO=( OR_THE_IMAGE_OF ) ) ) ARABIC( COMMA DISPUTED_END_OF_AYAH DOUBLED_MADDA
    FIVE_POINTED_STAR FOOTNOTE_MARKER FULL_STOP HALF_MADDA_OVER_MADDA MADDAH_ABOVE MADDA_WAAJIB
    PERCENT_SIGN PLACE_OF_SAJDAH POETIC_VERSE_SIGN QUESTION_MARK RAY
    ROUNDED_HIGH_STOP_WITH_FILLED_CENTRE SEMICOLON START_OF_RUB_EL_HIZB SUBSCRIPT_ALEF
    SUPERSCRIPT_ALEF_MOKHASSAS TAIL_FRAGMENT TRIPLE_DOT_PUNCTUATION_MARK TURNED_DAMMA_BELOW
    VERTICAL_TAIL WAVY_HAMZA_BELOW ZWARAKAY BASELINE/RAISED( ROUND_DOT ) CURLY( DAMMA DAMMATAN
    FATHA FATHATAN KASRA KASRATAN ) DAMMA=( WITH_DOT ISOLATED/MEDIAL( FORM ) )
    DAMMATAN/FATHATAN/KASRATAN=( ISOLATED_FORM ) DATE/DECIMAL/THOUSANDS( SEPARATOR )
    DOUBLE_RIGHT_ARROWHEAD_ABOVE=( WITH_DOT ) EMPTY_CENTRE( HIGH/LOW( STOP ) ) END_OF( AYAH
    TEXT_MARK ) FATHA=( ISOLATED/MEDIAL( FORM ) WITH( DOT_ABOVE RING TWO_DOTS ) ) HAMZA( ABOVE
    BELOW ) INVERTED/REVERSED( DAMMA ) KASRA=( WITH_DOT_BELOW ISOLATED/MEDIAL( FORM ) ) LARGE(
    CIRCLE_BELOW ROUND_DOT( ABOVE BELOW INSIDE_CIRCLE_BELOW ) ) LEFT_ARROWHEAD( ABOVE BELOW )
    LETTER( AE GRAF MARK STRAIGHT_WAW SWASH_KAF AFRICAN( FEH NOON QAF=( WITH_THREE_DOTS_ABOVE ) )
    AIN=( FINAL/INITIAL/ISOLATED/MEDIAL( FORM ) WITH( THREE_DOTS( ABOVE BELOW
    POINTING_DOWNWARDS_ABOVE ) TWO_DOTS( ABOVE VERTICALLY_ABOVE ) ) ) ALEF=( FINAL/ISOLATED( FORM
    ) MAKSURA/WASLA=( FINAL/ISOLATED( FORM ) ) WITH( DOT_ABOVE LEFT_MIDDLE_STROKE ATTACHED( FATHA
    KASRA BOTTOM_RIGHT_KASRA=( AND( DOT_ABOVE LEFT_RING ) ) LEFT/RIGHT( HAMZA ROUND_DOT )
    ROUND_DOT( ABOVE BELOW ) TOP_RIGHT_FATHA=( AND( DOT_ABOVE LEFT_RING ) ) )
    EXTENDED_ARABIC-INDIC_DIGIT( THREE/TWO( ABOVE ) ) HAMZA( ABOVE/BELOW=( FINAL/ISOLATED( FORM )
    ) ) MADDA_ABOVE=( FINAL/ISOLATED( FORM ) ) RIGHT_MIDDLE_STROKE=( AND( DOT_ABOVE LEFT_RING ) )
    WAVY_HAMZA( ABOVE BELOW ) ) )
    BEEH/BEHEH/DYEH/E/GUEH/KHAH/NG/NGOEH/NYEH/PEHEH/RNOON/TCHEHEH/TEHEH/THEH/TTEHEH/VEH/ZAH=(
    FINAL/INITIAL/ISOLATED/MEDIAL( FORM ) ) BEH=( FINAL/INITIAL/ISOLATED/MEDIAL( FORM ) WITH(
    DOT_BELOW_AND_THREE_DOTS_ABOVE HAMZA_ABOVE INVERTED_SMALL_V_BELOW TWO_DOTS_BELOW_AND_DOT_ABOVE
    SMALL( MEEM_ABOVE V=( BELOW ) ) THREE_DOTS( HORIZONTALLY_BELOW POINTING_UPWARDS_BELOW=(
    AND_TWO_DOTS_ABOVE ) ) ) ) DAD/SHEEN=( WITH_DOT_BELOW FINAL/INITIAL/ISOLATED/MEDIAL( FORM ) )
    DAHAL/DDAHAL/DDAL/DUL/JEH/OE/RREH/THAL/VE/YU=( FINAL/ISOLATED( FORM ) ) DAL=( FINAL/ISOLATED(
    FORM ) WITH( FOUR_DOTS_ABOVE RING TWO_DOTS_VERTICALLY_BELOW_AND_SMALL_TAH DOT_BELOW=(
    AND_SMALL_TAH ) INVERTED( SMALL_V_BELOW V ) THREE_DOTS( ABOVE_DOWNWARDS BELOW ) ) ) DOTLESS(
    BEH FEH QAF ) FARSI_YEH=( FINAL/INITIAL/ISOLATED/MEDIAL( FORM ) WITH( INVERTED_V
    EXTENDED_ARABIC-INDIC_DIGIT( FOUR_BELOW THREE/TWO( ABOVE ) ) THREE/TWO( DOTS_ABOVE ) ) ) FEH=(
    FINAL/INITIAL/ISOLATED/MEDIAL( FORM ) WITH( TWO_DOTS_BELOW DOT( MOVED_BELOW BELOW=(
    AND_THREE_DOTS_ABOVE ) ) THREE_DOTS( BELOW POINTING_UPWARDS_BELOW ) ) ) GAF=(
    FINAL/INITIAL/ISOLATED/MEDIAL( FORM ) WITH( INVERTED_STROKE RING THREE_DOTS_ABOVE
    TWO_DOTS_BELOW ) ) GHAIN=( FINAL/INITIAL/ISOLATED/MEDIAL( FORM ) WITH( DOT_BELOW
    THREE_DOTS_ABOVE ) ) HAH=( FINAL/INITIAL/ISOLATED/MEDIAL( FORM ) WITH(
    EXTENDED_ARABIC-INDIC_DIGIT_FOUR_BELOW HAMZA_ABOVE INVERTED_SMALL_V_BELOW
    SMALL_ARABIC_LETTER_TAH( ABOVE AND_TWO_DOTS BELOW ) THREE_DOTS( ABOVE POINTING_UPWARDS_BELOW )
    TWO_DOTS( ABOVE VERTICAL_ABOVE ) ) ) HAMZA=( ISOLATED_FORM ) HEH=( DOACHASHMEE=(
    FINAL/INITIAL/ISOLATED/MEDIAL( FORM ) ) FINAL/INITIAL/ISOLATED/MEDIAL( FORM ) GOAL=(
    WITH_HAMZA_ABOVE FINAL/INITIAL/ISOLATED/MEDIAL( FORM ) ) WITH( INVERTED_V YEH_ABOVE=(
    FINAL/ISOLATED( FORM ) ) ) ) HIGH_HAMZA=( ALEF WAW YEH ) JEEM=( FINAL/INITIAL/ISOLATED/MEDIAL(
    FORM ) WITH( TWO_DOTS_ABOVE THREE_DOTS( ABOVE BELOW ) ) ) KAF=( FINAL/INITIAL/ISOLATED/MEDIAL(
    FORM ) WITH( RING THREE_DOTS_BELOW TWO_DOTS_ABOVE DOT( ABOVE BELOW ) ) )
    KASHMIRI/ROHINGYA/THIN( YEH ) KEHEH=( FINAL/INITIAL/ISOLATED/MEDIAL( FORM ) WITH( DOT_ABOVE
    SMALL_V THREE_DOTS( ABOVE BELOW POINTING_UPWARDS_BELOW ) TWO_DOTS( ABOVE VERTICALLY_BELOW ) )
    ) KIRGHIZ( OE/YU=( FINAL/ISOLATED( FORM ) ) ) LAM=( FINAL/INITIAL/ISOLATED/MEDIAL( FORM )
    WITH( BAR DOT_ABOVE DOUBLE_BAR SMALL( ARABIC_LETTER_TAH_ABOVE V ) THREE_DOTS( ABOVE BELOW ) )
    ) LOW/SUPERSCRIPT( ALEF ) MEEM=( FINAL/INITIAL/ISOLATED/MEDIAL( FORM ) WITH( THREE_DOTS_ABOVE
    DOT( ABOVE BELOW ) ) ) NOON=( FINAL/INITIAL/ISOLATED/MEDIAL( FORM ) GHUNNA=( FINAL/ISOLATED(
    FORM ) ) WITH( DOT_BELOW INVERTED_SMALL_V RING THREE_DOTS_ABOVE TWO_DOTS_BELOW SMALL( TAH V )
    ) ) PEH=( FINAL/INITIAL/ISOLATED/MEDIAL( FORM ) WITH_SMALL( MEEM_ABOVE V ) ) QAF=(
    FINAL/INITIAL/ISOLATED/MEDIAL( FORM ) WITH( THREE_DOTS_ABOVE DOT( ABOVE BELOW=(
    AND_NO_DOTS_ABOVE ) ) ) ) REH=( FINAL/ISOLATED( FORM ) WITH( FOUR_DOTS_ABOVE HAMZA_ABOVE
    INVERTED_V LOOP RING STROKE DOT_BELOW=( AND_DOT_ABOVE ) SMALL( ARABIC_LETTER_TAH_AND_TWO_DOTS
    NOON_ABOVE V=( BELOW ) ) TWO_DOTS( ABOVE VERTICALLY_ABOVE ) ) ) SAD=(
    FINAL/INITIAL/ISOLATED/MEDIAL( FORM ) WITH( TWO_DOTS_BELOW THREE_DOTS( ABOVE BELOW ) ) )
    SEEN=( FINAL/INITIAL/ISOLATED/MEDIAL( FORM ) WITH( DOT_BELOW_AND_DOT_ABOVE
    EXTENDED_ARABIC-INDIC_DIGIT_FOUR_ABOVE FOUR_DOTS_ABOVE INVERTED_V
    SMALL_ARABIC_LETTER_TAH_AND_TWO_DOTS TWO_DOTS_VERTICALLY_ABOVE THREE_DOTS_BELOW=(
    AND_THREE_DOTS_ABOVE ) ) ) TAH=( FINAL/INITIAL/ISOLATED/MEDIAL( FORM ) WITH( DOT_BELOW
    TWO_DOTS_ABOVE THREE_DOTS( ABOVE BELOW ) ) ) TCHEH=( FINAL/INITIAL/ISOLATED/MEDIAL( FORM )
    WITH( DOT_ABOVE SMALL_V ) ) TEH=( FINAL/INITIAL/ISOLATED/MEDIAL( FORM ) MARBUTA=( GOAL
    FINAL/ISOLATED( FORM ) ) WITH( RING THREE_DOTS_ABOVE_DOWNWARDS SMALL( TEH_ABOVE V ) ) ) TTEH=(
    WITH_SMALL_V FINAL/INITIAL/ISOLATED/MEDIAL( FORM ) ) U=( FINAL/ISOLATED( FORM )
    WITH_HAMZA_ABOVE=( ISOLATED_FORM ) ) UIGHUR_KAZAKH_KIRGHIZ_ALEF_MAKSURA( INITIAL/MEDIAL( FORM
    ) ) WAW=( FINAL/ISOLATED( FORM ) WITH( RING TWO_DOTS_ABOVE DOT( ABOVE WITHIN )
    EXTENDED_ARABIC-INDIC_DIGIT( THREE/TWO( ABOVE ) ) HAMZA_ABOVE=( FINAL/ISOLATED( FORM ) ) ) )
    YEH=( BARREE=( FINAL/ISOLATED( FORM ) WITH( EXTENDED_ARABIC-INDIC_DIGIT( THREE/TWO( ABOVE ) )
    HAMZA_ABOVE=( FINAL/ISOLATED( FORM ) ) ) ) FINAL/INITIAL/ISOLATED/MEDIAL( FORM ) WITH( SMALL_V
    TAIL THREE_DOTS_BELOW HAMZA_ABOVE=( FINAL/INITIAL/ISOLATED/MEDIAL( FORM ) )
    TWO_DOTS_BELOW_AND( SMALL_NOON_ABOVE DOT/HAMZA( ABOVE ) ) ) ) ZAIN=( WITH_INVERTED_V_ABOVE
    FINAL/ISOLATED( FORM ) ) ) LIGATURE( AZZA_WA_JALL BISMILLAH_AR-RAHMAN_AR-RAHEEM
    JALLAJALALOUHOU QALA_USED_AS_KORANIC_STOP_SIGN_ISOLATED_FORM QUDDISA_SIRRAH SALAAMUHU_ALAYNAA
    SALLALLAAHU_ALAYHI_WA-AALIH SALLALLAHOU_ALAYHE_WASALLAM SALLALLAHU_ALAYHI_WAAALIHEE_WA-SALLAM
    SUBHAANAHU_WA_TAAALAA TABAARAKA_WA-TAAALAA AIN_WITH( ALEF_MAKSURA( FINAL/ISOLATED( FORM ) )
    JEEM( INITIAL/ISOLATED( FORM ) WITH_MEEM( FINAL/INITIAL( FORM ) ) ) MEEM( INITIAL/ISOLATED(
    FORM ) WITH( ALEF_MAKSURA_FINAL_FORM YEH_FINAL_FORM MEEM( FINAL/INITIAL( FORM ) ) ) ) YEH(
    FINAL/ISOLATED( FORM ) ) ) AKBAR/ALAYHE/ALLAH/MOHAMMAD/RASOUL/SALAM/WASALLAM( ISOLATED_FORM )
    ALAYHAA/ALAYHIM/ALAYHIMAA( AS-SALAAM ) ALAYHI( AS-SALAAM AS-SALAATU_WAS-SALAAM ) ALEF(
    MAKSURA_WITH_SUPERSCRIPT_ALEF( FINAL/ISOLATED( FORM ) ) WITH_FATHATAN( FINAL/ISOLATED( FORM )
    ) ) BEH_WITH( ALEF_MAKSURA( FINAL/ISOLATED( FORM ) ) HAH/KHAH( WITH_YEH_FINAL_FORM
    INITIAL/ISOLATED( FORM ) ) HEH( INITIAL/MEDIAL( FORM ) ) JEEM( INITIAL/ISOLATED( FORM ) )
    MEEM( FINAL/INITIAL/ISOLATED/MEDIAL( FORM ) ) NOON/REH/ZAIN( FINAL_FORM ) YEH( FINAL/ISOLATED(
    FORM ) ) ) DAD_WITH( ALEF_MAKSURA( FINAL/ISOLATED( FORM ) ) HAH( INITIAL/ISOLATED( FORM )
    WITH( ALEF_MAKSURA_FINAL_FORM YEH_FINAL_FORM ) ) JEEM/MEEM( INITIAL/ISOLATED( FORM ) ) KHAH(
    INITIAL/ISOLATED( FORM ) WITH_MEEM( FINAL/INITIAL( FORM ) ) ) REH/YEH( FINAL/ISOLATED( FORM )
    ) ) FEH_WITH( ALEF_MAKSURA( FINAL/ISOLATED( FORM ) ) HAH/JEEM( INITIAL/ISOLATED( FORM ) )
    KHAH( INITIAL/ISOLATED( FORM ) WITH_MEEM( FINAL/INITIAL( FORM ) ) ) MEEM( WITH_YEH_FINAL_FORM
    INITIAL/ISOLATED( FORM ) ) YEH( FINAL/ISOLATED( FORM ) ) ) GHAIN_WITH( ALEF_MAKSURA(
    FINAL/ISOLATED( FORM ) ) JEEM( INITIAL/ISOLATED( FORM ) ) MEEM( INITIAL/ISOLATED( FORM ) WITH(
    ALEF_MAKSURA_FINAL_FORM MEEM/YEH( FINAL_FORM ) ) ) YEH( FINAL/ISOLATED( FORM ) ) ) HAH_WITH(
    ALEF_MAKSURA( FINAL/ISOLATED( FORM ) ) JEEM( WITH_YEH_FINAL_FORM INITIAL/ISOLATED( FORM ) )
    MEEM( INITIAL/ISOLATED( FORM ) WITH( ALEF_MAKSURA_FINAL_FORM YEH_FINAL_FORM ) ) YEH(
    FINAL/ISOLATED( FORM ) ) ) HEH_WITH( ALEF_MAKSURA_ISOLATED_FORM SUPERSCRIPT_ALEF_INITIAL_FORM
    YEH_ISOLATED_FORM JEEM( INITIAL/ISOLATED( FORM ) ) MEEM( INITIAL/ISOLATED( FORM ) WITH(
    JEEM/MEEM( INITIAL_FORM ) ) ) ) JEEM_WITH( ALEF_MAKSURA( FINAL/ISOLATED( FORM ) ) HAH(
    INITIAL/ISOLATED( FORM ) WITH( ALEF_MAKSURA_FINAL_FORM YEH_FINAL_FORM ) ) MEEM(
    INITIAL/ISOLATED( FORM ) WITH( ALEF_MAKSURA_FINAL_FORM YEH_FINAL_FORM HAH( FINAL/INITIAL( FORM
    ) ) ) ) YEH( FINAL/ISOLATED( FORM ) ) ) KAF_WITH( ALEF( FINAL/ISOLATED( FORM ) MAKSURA(
    FINAL/ISOLATED( FORM ) ) ) HAH/JEEM/KHAH( INITIAL/ISOLATED( FORM ) ) LAM(
    FINAL/INITIAL/ISOLATED/MEDIAL( FORM ) ) MEEM( FINAL/INITIAL/ISOLATED/MEDIAL( FORM ) WITH(
    YEH_FINAL_FORM MEEM( FINAL/INITIAL( FORM ) ) ) ) YEH( FINAL/ISOLATED( FORM ) ) ) KHAH_WITH(
    HAH_ISOLATED_FORM ALEF_MAKSURA( FINAL/ISOLATED( FORM ) ) JEEM/MEEM( INITIAL/ISOLATED( FORM ) )
    YEH( FINAL/ISOLATED( FORM ) ) ) LAM_WITH( HEH_INITIAL_FORM ALEF( FINAL/ISOLATED( FORM )
    MAKSURA( FINAL/ISOLATED( FORM ) ) WITH( HAMZA( ABOVE/BELOW( FINAL/ISOLATED( FORM ) ) )
    MADDA_ABOVE( FINAL/ISOLATED( FORM ) ) ) ) HAH( INITIAL/ISOLATED( FORM ) WITH(
    ALEF_MAKSURA_FINAL_FORM YEH_FINAL_FORM MEEM( FINAL/INITIAL( FORM ) ) ) ) JEEM(
    INITIAL/ISOLATED( FORM ) WITH( YEH_FINAL_FORM JEEM/MEEM( FINAL/INITIAL( FORM ) ) ) ) KHAH(
    INITIAL/ISOLATED( FORM ) WITH_MEEM( FINAL/INITIAL( FORM ) ) ) MEEM(
    FINAL/INITIAL/ISOLATED/MEDIAL( FORM ) WITH( YEH_FINAL_FORM HAH( FINAL/INITIAL( FORM ) ) ) )
    YEH( FINAL/ISOLATED( FORM ) ) ) MEEM_WITH( YEH_ISOLATED_FORM ALEF( FINAL_FORM
    MAKSURA_ISOLATED_FORM ) HAH/KHAH( INITIAL/ISOLATED( FORM ) WITH( YEH_FINAL_FORM JEEM/MEEM(
    INITIAL_FORM ) ) ) JEEM( INITIAL/ISOLATED( FORM ) WITH( YEH_FINAL_FORM HAH/KHAH/MEEM(
    INITIAL_FORM ) ) ) MEEM( WITH_YEH_FINAL_FORM FINAL/INITIAL/ISOLATED( FORM ) ) ) NOON_WITH(
    ALEF_MAKSURA( FINAL/ISOLATED( FORM ) ) HAH( INITIAL/ISOLATED( FORM ) WITH(
    ALEF_MAKSURA_FINAL_FORM MEEM_INITIAL_FORM YEH_FINAL_FORM ) ) HEH( INITIAL/MEDIAL( FORM ) )
    JEEM( INITIAL/ISOLATED( FORM ) WITH( ALEF_MAKSURA_FINAL_FORM YEH_FINAL_FORM HAH/MEEM(
    FINAL/INITIAL( FORM ) ) ) ) KHAH( INITIAL/ISOLATED( FORM ) ) MEEM(
    FINAL/INITIAL/ISOLATED/MEDIAL( FORM ) WITH( ALEF_MAKSURA_FINAL_FORM YEH_FINAL_FORM ) )
    NOON/REH/ZAIN( FINAL_FORM ) YEH( FINAL/ISOLATED( FORM ) ) ) QAF_WITH( ALEF_MAKSURA(
    FINAL/ISOLATED( FORM ) ) HAH( INITIAL/ISOLATED( FORM ) ) MEEM( INITIAL/ISOLATED( FORM ) WITH(
    HAH( FINAL/INITIAL( FORM ) ) MEEM/YEH( FINAL_FORM ) ) ) YEH( FINAL/ISOLATED( FORM ) ) )
    RADI_ALLAAHU( ANH ANHAA ANHUM ANHUMAA ANHUNNA ) RAHIMAHU/RAHIMAHUM( ALLAAH ) REH/THAL(
    WITH_SUPERSCRIPT_ALEF_ISOLATED_FORM ) SAD_WITH( KHAH_INITIAL_FORM ALEF_MAKSURA(
    FINAL/ISOLATED( FORM ) ) HAH( INITIAL/ISOLATED( FORM ) WITH( YEH_FINAL_FORM HAH(
    FINAL/INITIAL( FORM ) ) ) ) MEEM( INITIAL/ISOLATED( FORM ) WITH_MEEM( FINAL/INITIAL( FORM ) )
    ) REH/YEH( FINAL/ISOLATED( FORM ) ) ) SALLA( ISOLATED_FORM
    USED_AS_KORANIC_STOP_SIGN_ISOLATED_FORM ) SEEN_WITH( ALEF_MAKSURA( FINAL/ISOLATED( FORM ) )
    HAH( WITH_JEEM_INITIAL_FORM INITIAL/ISOLATED/MEDIAL( FORM ) ) HEH( INITIAL/MEDIAL( FORM ) )
    JEEM( INITIAL/ISOLATED/MEDIAL( FORM ) WITH( ALEF_MAKSURA_FINAL_FORM HAH_INITIAL_FORM ) ) KHAH(
    INITIAL/ISOLATED/MEDIAL( FORM ) WITH( ALEF_MAKSURA_FINAL_FORM YEH_FINAL_FORM ) ) MEEM(
    INITIAL/ISOLATED/MEDIAL( FORM ) WITH( JEEM_INITIAL_FORM HAH/MEEM( FINAL/INITIAL( FORM ) ) ) )
    REH/YEH( FINAL/ISOLATED( FORM ) ) ) SHADDA_WITH( SUPERSCRIPT_ALEF_ISOLATED_FORM
    DAMMA/FATHA/KASRA( ISOLATED/MEDIAL( FORM ) ) DAMMATAN/KASRATAN( ISOLATED_FORM ) ) SHEEN_WITH(
    ALEF_MAKSURA( FINAL/ISOLATED( FORM ) ) HAH( FINAL/INITIAL/ISOLATED/MEDIAL( FORM ) WITH(
    YEH_FINAL_FORM MEEM( FINAL/INITIAL( FORM ) ) ) ) HEH( INITIAL/MEDIAL( FORM ) ) JEEM(
    WITH_YEH_FINAL_FORM FINAL/INITIAL/ISOLATED/MEDIAL( FORM ) ) KHAH(
    FINAL/INITIAL/ISOLATED/MEDIAL( FORM ) ) MEEM( FINAL/INITIAL/ISOLATED/MEDIAL( FORM ) WITH(
    KHAH/MEEM( FINAL/INITIAL( FORM ) ) ) ) REH/YEH( FINAL/ISOLATED( FORM ) ) ) TAH_WITH(
    ALEF_MAKSURA( FINAL/ISOLATED( FORM ) ) HAH( INITIAL/ISOLATED( FORM ) ) MEEM(
    INITIAL/ISOLATED/MEDIAL( FORM ) WITH( MEEM_INITIAL_FORM YEH_FINAL_FORM HAH( FINAL/INITIAL(
    FORM ) ) ) ) YEH( FINAL/ISOLATED( FORM ) ) ) TEH_WITH( ALEF_MAKSURA( FINAL/ISOLATED( FORM ) )
    HAH( INITIAL/ISOLATED( FORM ) WITH( MEEM_INITIAL_FORM JEEM( FINAL/INITIAL( FORM ) ) ) ) HEH(
    INITIAL/MEDIAL( FORM ) ) JEEM/KHAH( INITIAL/ISOLATED( FORM ) WITH( ALEF_MAKSURA_FINAL_FORM
    MEEM_INITIAL_FORM YEH_FINAL_FORM ) ) MEEM( FINAL/INITIAL/ISOLATED/MEDIAL( FORM ) WITH(
    ALEF_MAKSURA_FINAL_FORM YEH_FINAL_FORM HAH/JEEM/KHAH( INITIAL_FORM ) ) ) NOON/REH/ZAIN(
    FINAL_FORM ) YEH( FINAL/ISOLATED( FORM ) ) ) THEH_WITH( HEH_MEDIAL_FORM JEEM_ISOLATED_FORM
    ALEF_MAKSURA( FINAL/ISOLATED( FORM ) ) MEEM( FINAL/INITIAL/ISOLATED/MEDIAL( FORM ) )
    NOON/REH/ZAIN( FINAL_FORM ) YEH( FINAL/ISOLATED( FORM ) ) )
    UIGHUR_KIRGHIZ_YEH_WITH_HAMZA_ABOVE_WITH_ALEF_MAKSURA( FINAL/INITIAL/ISOLATED( FORM ) )
    YEH_WITH( ALEF_MAKSURA( FINAL/ISOLATED( FORM ) ) HAH/JEEM( WITH_YEH_FINAL_FORM
    INITIAL/ISOLATED( FORM ) ) HAMZA_ABOVE_WITH( KHAH_INITIAL_FORM AE/OE/U/WAW/YEH/YU(
    FINAL/ISOLATED( FORM ) ) ALEF( FINAL/ISOLATED( FORM ) MAKSURA( FINAL/ISOLATED( FORM ) ) ) E(
    FINAL/INITIAL/ISOLATED( FORM ) ) HAH/JEEM( INITIAL/ISOLATED( FORM ) ) HEH( INITIAL/MEDIAL(
    FORM ) ) MEEM( FINAL/INITIAL/ISOLATED/MEDIAL( FORM ) ) NOON/REH/ZAIN( FINAL_FORM ) ) HEH(
    INITIAL/MEDIAL( FORM ) ) KHAH( INITIAL/ISOLATED( FORM ) ) MEEM( FINAL/INITIAL/ISOLATED/MEDIAL(
    FORM ) WITH( YEH_FINAL_FORM MEEM( FINAL/INITIAL( FORM ) ) ) ) NOON/REH/ZAIN( FINAL_FORM ) YEH(
    FINAL/ISOLATED( FORM ) ) ) ZAH_WITH_MEEM( INITIAL/ISOLATED/MEDIAL( FORM ) ) ) MARK(
    NOON_GHUNNA SIDEWAYS_NOON_GHUNNA ) MATHEMATICAL( AIN ALEF BEH DAD DAL FEH GHAIN HAH JEEM KAF
    KHAH LAM MEEM NOON QAF REH SAD SEEN SHEEN TAH TEH THAL THEH WAW YEH ZAH ZAIN DOTLESS( BEH FEH
    NOON QAF ) DOUBLE-STRUCK( AIN BEH DAD DAL FEH GHAIN HAH JEEM KHAH LAM MEEM NOON QAF REH SAD
    SEEN SHEEN TAH TEH THAL THEH WAW YEH ZAH ZAIN ) INITIAL( AIN BEH DAD FEH GHAIN HAH HEH JEEM
    KAF KHAH LAM MEEM NOON QAF SAD SEEN SHEEN TEH THEH YEH ) LOOPED( AIN ALEF BEH DAD DAL FEH
    GHAIN HAH HEH JEEM KHAH LAM MEEM NOON QAF REH SAD SEEN SHEEN TAH TEH THAL THEH WAW YEH ZAH
    ZAIN ) OPERATOR( HAH_WITH_DAL MEEM_WITH_HAH_WITH_TATWEEL ) STRETCHED( AIN BEH DAD FEH GHAIN
    HAH HEH JEEM KAF KHAH MEEM NOON QAF SAD SEEN SHEEN TAH TEH THEH YEH ZAH DOTLESS( BEH FEH ) )
    TAILED( AIN DAD GHAIN HAH JEEM KHAH LAM NOON QAF SAD SEEN SHEEN YEH DOTLESS( NOON QAF ) ) )
    NUMBER( MARK_ABOVE SIGN ) OPEN( DAMMATAN FATHATAN KASRATAN ) PIASTRE/POUND( MARK_ABOVE )
    RIGHT_ARROWHEAD( BELOW ABOVE=( WITH_DOT ) ) SHADDA=( ISOLATED/MEDIAL( FORM ) ) SIGN(
    ALAYHE_ASSALLAM MISRA RADI_ALLAHOU_ANHU RAHMATULLAH_ALAYHE SAFHA SALLALLAHOU_ALAYHE_WASSALLAM
    SAMVAT SANAH TAKHALLUS SINDHI( AMPERSAND POSTPOSITION_MEN ) ) SMALL( DAMMA FARSI_YEH FATHA
    KASRA WAW YEH HIGH( AIN DOTLESS_HEAD_OF_KHAH FARSI_YEH FOOTNOTE_MARKER JEEM LAM_ALEF MADDA QAF
    ROUNDED_ZERO SAD SEEN SIGN_SAFHA TAH THREE_DOTS UPRIGHT_RECTANGULAR_ZERO WAW ZAH ZAIN
    LIGATURE( ALEF_WITH_LAM_WITH_YEH QAF/SAD( WITH_LAM_WITH_ALEF_MAKSURA ) ) MEEM(
    INITIAL/ISOLATED( FORM ) ) NOON=( WITH_KASRA ) WORD( AL-JUZ AN-NISF AR-RUB AS-SAJDA
    ATH-THALATHA QIF SAH SAKTA WAQFA ) YEH=( BARREE_WITH_TWO_DOTS_BELOW ) ) LOW( MEEM
    NOON_WITH_KASRA SEEN WAW WORD( IMAALA ISHMAAM TASHEEL ) ) ) SUKUN=( BELOW ISOLATED/MEDIAL(
    FORM ) ) SYMBOL( DOUBLE_VERTICAL_BAR_BELOW RING WASLA_ABOVE DOT( ABOVE BELOW ) FOUR_DOTS(
    ABOVE BELOW ) SMALL_TAH( ABOVE BELOW ) THREE_DOTS( ABOVE BELOW POINTING_DOWNWARDS( ABOVE BELOW
    ) ) TWO_DOTS( ABOVE BELOW VERTICALLY( ABOVE BELOW ) ) ) TATWEEL=( WITH( FATHATAN_ABOVE
    TWO_DOTS_BELOW OVERSTRUCK( HAMZA WAW ) ) ) TONE( LOOP( ABOVE BELOW ) ONE_DOT( ABOVE BELOW )
    TWO_DOTS( ABOVE BELOW ) ) VOWEL_SIGN( DOT_BELOW INVERTED_SMALL_V_ABOVE SMALL_V_ABOVE ) )
    ARABIC-INDIC( CUBE/FOURTH( ROOT ) DIGIT( EIGHT FIVE FOUR NINE ONE SEVEN SIX THREE TWO ZERO )
    PER( MILLE_SIGN TEN_THOUSAND_SIGN ) ) ARMENIAN( APOSTROPHE COMMA DRAM_SIGN FULL_STOP HYPHEN
    MODIFIER_LETTER_LEFT_HALF_RING ABBREVIATION/EMPHASIS/EXCLAMATION/QUESTION( MARK )
    CAPITAL_LETTER( AYB BEN CA CHA CHEH CO DA ECH EH ET FEH GHAD GIM HO INI JA JHEH KEH KEN LIWN
    MEN NOW OH PEH PIWR RA REH SEH SHA TIWN TO VEW VO XEH YI YIWN ZA ZHE ) SMALL( LETTER( AYB BEN
    CA CHA CHEH CO DA ECH EH ET FEH GHAD GIM HO INI JA JHEH KEH KEN LIWN MEN NOW OH PEH PIWR RA
    REH SEH SHA TIWN TO TURNED_AYB VEW VO XEH YIWN ZA ZHE YI=( WITH_STROKE ) ) LIGATURE( ECH_YIWN
    VEW_NOW MEN( ECH INI NOW XEH ) ) ) ) ARROW_POINTING( UPWARDS_THEN_NORTH_WEST
    DOWNWARDS_THEN_CURVING( LEFTWARDS RIGHTWARDS ) RIGHTWARDS_THEN_CURVING( DOWNWARDS SOUTH_WEST
    UPWARDS ) ) ASTERISK=( OPERATOR ) AVESTAN( ABBREVIATION_MARK LETTER( A AA AAN AAO AE AEE AN AO
    BE BHE CE DE DHE E EE FE GE GGE GHE HE HME I II JE KE LE ME NE NGE NGVE NGYE NNE NYE O OO PE
    RE SE SHE SHYE SSHE TE THE TTE U UU VE XE XVE XYE YE YYE ZE ZHE ) )"),
  ('B', "BACK-TILTED_SHADOWED_WHITE_RIGHTWARDS_ARROW BACKSPACE BACON BACTRIAN_CAMEL BADGER
    BADMINTON_RACQUET_AND_SHUTTLECOCK BAGEL BAGGAGE_CLAIM BAGUETTE_BREAD BALLET_SHOES BALLOON
    BALLOON-SPOKED_ASTERISK BALL_OF_YARN BANANA BANJO BANK BARBER_POLE BASEBALL BASKET
    BASKETBALL_AND_HOOP BAT BATH BATHTUB BATTERY BEACH_WITH_UMBRELLA BEANS BEARDED_PERSON
    BEAR_FACE BEAVER BECAUSE BED BEER_MUG BEETLE BEL BELLHOP_BELL
    BENT_ARROW_POINTING_DOWNWARDS_THEN_NORTH_EAST BETWEEN BICYCLE BICYCLIST BIKINI BILLED_CAP
    BILLIARDS BIRD BIRTHDAY_CAKE BISON BITING_LIP BLOSSOM BLOWFISH BLUEBERRIES BOAR BOM BOMB BONE
    BOOK BOOKS BOOMERANG BOTTLE_WITH_POPPING_CORK BOWLING BOW_AND_ARROW BOXING_GLOVE BOY BPH BRAIN
    BREAD BREAK_PERMITTED_HERE BREAST-FEEDING BREVE BRICK BRIDE_WITH_VEIL BRIDGE_AT_NIGHT
    BRIEFCASE BRIEFS BROCCOLI BROOM BS BUBBLES BUBBLE_TEA BUCKET BUG BUILDING_CONSTRUCTION
    BULLSEYE BURRITO BUTTER BUTTERFLY BYTE_ORDER_MARK BABY=( ANGEL BOTTLE CHICK SYMBOL ) BACK(
    OF_ENVELOPE WITH_LEFTWARDS_ARROW_ABOVE ) BACKSLANTED_SOUTH_ARROW_WITH( HOOKED/HORIZONTAL( TAIL
    ) ) BALINESE( ADEG_ADEG PAMENENG WINDU CARIK( PAMUNGKAH PAREREN SIKI ) DIGIT( EIGHT FIVE FOUR
    NINE ONE SEVEN SIX THREE TWO ZERO ) LETTER( AIKARA ARCHAIC_JNYA EKARA HA MA NGA NYA WA YA
    AKARA/IKARA/OKARA/UKARA=( TEDUNG ) ASYURA/EF/KAF/KHOT/TZIR/VE/ZAL( SASAK ) BA=( KEMBANG ) CA=(
    LACA ) DA=( MADU MURDA( ALPAPRANA MAHAPRANA ) ) GA=( GORA ) JA=( JERA ) KA=( MAHAPRANA ) LA=(
    LENGA=( TEDUNG ) ) NA=( RAMBAT ) PA=( KAPAL ) RA=( REPA=( TEDUNG ) ) SA=( SAGA SAPA ) TA=(
    LATIK MURDA_MAHAPRANA TAWA ) ) MUSICAL_SYMBOL( DAENG DAING DENG DEUNG DING DONG DUNG
    COMBINING( BENDE ENDEP GONG JEGOGAN TEGEH KEMPLI/KEMPUL=( WITH_JEGOGAN ) ) DANG=( GEDE SURANG
    ) LEFT-HAND( CLOSED( PLAK PLUK ) OPEN( PANG PING PUNG ) ) RIGHT-HAND( CLOSED( TAK TUK ) OPEN(
    DAG DUG ) ) ) PAMADA/PANTI=( LANTANG ) SIGN( BISAH CECEK REREKAN SURANG ULU( CANDRA RICEM ) )
    VOWEL_SIGN( TEDUNG LA_LENGA=( TEDUNG ) PEPET=( TEDUNG ) RA_REPA=( TEDUNG ) SUKU=( ILUT )
    TALING=( TEDUNG REPA=( TEDUNG ) ) ULU=( SARI ) ) ) BALLOT( BOLD_SCRIPT_X SCRIPT_X X BOX=(
    WITH( BALLOT CHECK X BOLD( CHECK SCRIPT_X ) LIGHT/SCRIPT( X ) ) ) ) BAMUM( COLON COMMA
    FULL_STOP NJAEMLI QUESTION_MARK SEMICOLON COMBINING_MARK( KOQNDON TUKWENTIS ) LETTER( A EE
    FAAMAE FEE FOM FU I KA KEN KET KEUX KI KO KOGHOM KOVUU KPA KU KYEE LA LEEEE LI LOQ LU M MA
    MBAA MBEN MEEEE MEN MI MO MU NA NDAA NGA NGGA NGKWAEN NI NJAEM NJEE NJUAE NSHA NTEE NTUU NU
    NUAE NYI O PA PEE PEUX PI PUAE PUE RAE REE REN REUX RIEE RII RU SAMBA SEUX SHEUX SHII SHO SHU
    SI SUU TAA TAE TEN TET TI U WA WUE YA YOQ YUQ PHASE-A( FIRI GBIEE_FON GHEUAEGHEUAE GHEUAERAE
    KAFA KAQ KET KEUKEUTNDA KPOQ KUOQ LAPAQ LET_KUT LOMMAE LU LUAEP MAEKEUP MAEM MAEMBGBIEE
    MAEMKPEN MAEMVEUX MAENYI MAESI MANSUAE MAP_PIEET MBANYI MBAQ MEUNJOMNDEUQ MGBASA MON_NGGEUAET
    MOOMEUT MOOMPUQ MVEUAENGAM NAQ NDAANGGEUAET NEN NGANGU NGGEN NGKUENZEUM NIKA NJAM NKAARAE
    NKINDI NSHA NSHIEE NTOQPEN NYET NYI NYIT_MONGKEUAEQ NZUN_MEUT PAAM PAARAE PAMSHAE PASHAE PET
    PUP ROM SEUNYAM SHINDA_PA_NJI SHIRAE SHOQ_NSHUT_YUM SHUENSHUET SHUM SISA SONJAM SOQ SOT SUU
    TEUAEN TEUTEUWEN TUAEP TU_MAEMBA UNKNOWN U_YUQ_NAE VEE NAA/NGKUE/NZA/TITA( MFON ) NDA/PA(
    LEERAEWA ) NTAP=( MFAA NTAA ) PON( MFON( PIPAEMBA PIPAEMGBIEE ) PA_NJI( PIPAEMBA PIPAEMGBIEE )
    ) ) PHASE-B( FEE FEUX GHEUGHEN GHEUGHEUAEM KAM KEUAEM KEUPUQ KEUYEUX KIEEM KIQ LAANAE
    LAM_NSHUT_NYAM LET MBAARAE MBA_MAELEE MBEURI MBIT_MBAAKET MBUOQ MEUQ MEUT_NGGEET MFIYAQ
    MFON_TEUAEQ MONTIEEN NDU_NJAA NGGAAM NGGEU_MBU NGKINDI_MVOP NGOM NSEN NSHUET NTIEE_SHEUOQ
    NYAEMAE PARUM PEESHI PIT PUNGAAM SAKEUAE SET_TU SHET_NJAQ SHEUAEQTU SIEE SUE TAAM VEUM WUAET
    YAFU_LEERAEWA YEURAE LOM/NYI( NTEUM ) MA=( NJEUAENA NJUQA ) NGGUOQ=( LARGE ) TU( MAEMGBIEE
    NSIEE ) ) PHASE-C( BUNG FUE GBAYI GHAP GHARAE KAA KET KEUKAQ KEUM KEUSEUX KEUSHEUAEP KPARAQ
    KUOP_NKAARAE KUT LAM LAP LIQ LU MAEMBA MAESI MBANYI MBEEKEET MBERAE MBEUM MBEUX MBI MBIRIEEN
    MBIT MBUAEM MBUE MGBASAQ MIEE MUAE NANSANAQ NAQ NDAM NDAP NDEUAEREE NDEUT NDIDA NDOMBU NGAQ
    NGGEN NGGU NGGUAEN_NYAM NGGUEET NGGUM NGGUON NGKAQ NGKUE_MAEMBA NGOM NJAEM NJAM NJEEEE NJEUX
    NJUEQ NSA NSEUAEN NSHAQ NSOM NSUN NSUOT_NGOM NTAA NTEN NTEUNGBA NTU_MBIT NYIR_MKPARAQ_MEUN NZA
    NZEUM PEN PIN PIRIEEN RU SETFON SEUX SHIQ SHUEQ SUAET TAASHAE TET TEUTEUX TITA_YUE TITUAEP
    VEUAEPEN VEUX WANGKUOQ WUP YAA YEUQ YUM YUWOQ YU_MUOMAE KEN( FATIGUE LAW ) MA( KEUAERI NSIEE )
    MBAA( CABBAGE-TREE PICKET ) ) PHASE-D( FAA FEUFEUAET GHAA GHEUAE KET KEUAETMEUN KEUM
    KEUOT_MBUAE KEUP KU KUN KUOM KUQ KWAET KYEE LEEEE LET LEUAEP LEUM LIEE LOQ LUM M MAENJET
    MALEERI MBUO MEEEE MEUN MEUT MFEUAE MFEUT MFIEE MFO MFON MGBEUN MGBIEE MGBOFUM MONI MU MVOP
    NDAM NDEE NDEUX NDON NGGAAM NGGAAMAE NGGAP NGGEUX NGGUOM NGGWAEN NGKAP NGKEUAEQ NGKEURI NGKIEE
    NGKUN NGKYEE NI NJAP NJEUAEM NJEUT NJI NJIEE NJUEQ NSHEE NSHUT NSIEEP NSIEET NSUM NTEE NTEUM
    NTUU NU NYAM NYET NYI NYUE PAP PEE PEUTAE PIP PUQ PUUT RAEM RII SAP SAQ SEUAEQ SHEE SHEUAE
    SHEUX SHII SHOQ SHU SOT SUAE SUE SUU TAE TEEEE TEUAEN TEUN TEUT TI TOQ TU TUOT WAP WUAEN
    YAEMMAE YEN YUOM YUOP YUWOQ MBAA=( SEVEN ) REN( MUCH OLD ) ) PHASE-E( A FA FAQ FEE FOM FUE
    FUET GBET GBEUX GHAAMAE GHET GHEUAE GHEUN GHEUX GHOM I KET KEUAE KEUX KI KO KPEUX KUET KUOP
    KUT LAAM LAP LAQ LEUAEM LOM LOON LOOT LOQ LU MA MAE MAEM MAP MAQ MBEE MBEUM MEN MFEUQ MGBA
    MGBEN MI MIEE MON MUAE MVI NA NAE NDAP NDIAQ NDIQ NDUN NGA NGEUREUT NGGEEEE NGGEUAE NGGEUAET
    NGGUAESHAE_NYAM NGGUP NGGURAE NGKA NGKAAMI NGKEUAEM NGKEUX NGKUM NGKUP NGOP NGOQ NGUAE NGUAET
    NJAEMLI NJEUX NKOM NSHIEE NSHUE NSHUOP NTAP NTUM NZAQ NZUQ O PAA PAAM PEEM PEUT PEUX PI PIEEQ
    PIET PO POON PU PUAE PUAQ PUE PUM RAE RAQ REUX RIMGBA SAA SEE SET SHEUAEQ SHIQ SHO SHOQ SOM
    SUAEN TAA TAAQ TAEN_NTEUM TAM TAQ TEN TEU TEUAEQ TOO TOON TOQ TUAE TUM TUMAE VEE VEUAE VOM
    WEUX WUE WUO YAP YEUAE YEUAET YEUM YEUX YIEE YIT YUAEN YUEQ YUN YUQ FU( CALL I REMEDY ) NDAA(
    MY_HOUSE SOFTNESS ) NJEE=( EPOCH ) NYI( BETWEEN CLEAVER ) PA( PEOPLE PLURAL ) YOQ( COVER
    SWIMMING ) ) PHASE-F( EE FOM KA KEN KET KO KPA KU KYEE LA LI LOQ M MA MBAA MBEN MEEEE MO NDAA
    NGGA NGKWAEN NI NJAEM NJUAE NSHA NTEE NU NUAE NYI PEE PEUX PUAE REE REN REUX RIEE RII RU SAMBA
    SEUX SHII SHO SHU SI SUU TAA TAE TET U VUEQ WA WUE YA YOQ ) ) ) BANKNOTE_WITH(
    DOLLAR/EURO/POUND/YEN( SIGN ) ) BAR( CHART OF_SOAP ) BASSA_VAH( FULL_STOP COMBINING(
    HIGH/HIGH-LOW/LOW/LOW-MID/MID( TONE ) ) LETTER( A BA CE DHII DO E EE ENNI FA GAH GBU HWAH I JO
    KA KPAH MBE O OO PA SE TO U UWU VU WA WADDA YEIN YIE ZO ) ) BATAK( PANGOLAT PANONGONAN
    SIGN_TOMPI CONSONANT_SIGN( H NG ) LETTER( A BA CA DA GA HA I JA KARO_BA LA MA MBA NA NDA NGA
    NYA PA PAKPAK_WA RA SA U WA YA MANDAILING( HA NA SA ) NORTHERN/SOUTHERN( TA ) SIMALUNGUN( A GA
    HA LA MA PA RA SA WA YA ) ) SYMBOL_BINDU( JUDUL NA_METEK PANGOLAT PINARBORAS ) VOWEL_SIGN( E
    EE I O PAKPAK_E KARO( I O ) U=( FOR_SIMALUNGUN_SA ) ) ) BEAMED( ASCENDING/DESCENDING(
    MUSICAL_NOTES ) EIGHTH/SIXTEENTH( NOTES ) ) BEATING/BROWN( HEART ) BELL=( PEPPER SYMBOL
    WITH_CANCELLATION_STROKE ) BENGALI( ABBREVIATION_SIGN ANJI AU_LENGTH_MARK ISSHAR CURRENCY(
    DENOMINATOR_SIXTEEN NUMERATOR( FOUR THREE TWO ONE=( LESS_THAN_THE_DENOMINATOR ) ) ) DIGIT(
    EIGHT FIVE FOUR NINE ONE SEVEN SIX THREE TWO ZERO ) GANDA/SANDHI( MARK ) LETTER( A AA AI AU BA
    BHA CA CHA DA DDA DDHA DHA E GA GHA HA I II JA JHA KA KHA KHANDA_TA LA MA NA NGA NNA NYA O PA
    PHA RHA RRA SA SHA SSA TA THA TTA TTHA U UU VEDIC_ANUSVARA YA YYA RA=( WITH( LOWER/MIDDLE(
    DIAGONAL ) ) ) VOCALIC( L LL R RR ) ) RUPEE( MARK SIGN ) SIGN( ANUSVARA AVAGRAHA CANDRABINDU
    NUKTA VIRAMA VISARGA ) VOWEL_SIGN( AA AI AU E I II O U UU VOCALIC( L LL R RR ) ) )
    BENTO/BEVERAGE( BOX ) BENZENE_RING=( WITH_CIRCLE ) BET/BLANK/BOYS( SYMBOL ) BHAIKSUKI( DANDA
    DOUBLE_DANDA HUNDREDS_UNIT_MARK WORD_SEPARATOR DIGIT( EIGHT FIVE FOUR NINE ONE SEVEN SIX THREE
    TWO ZERO ) GAP( FILLER-1 FILLER-2 ) LETTER( A AA AI AU BA BHA CA CHA DA DDA DDHA DHA E GA GHA
    HA I II JA JHA KA KHA LA MA NA NGA NNA NYA O PA PHA RA SA SHA SSA TA THA TTA TTHA U UU VA YA
    VOCALIC( L R RR ) ) NUMBER( EIGHT EIGHTY FIFTY FIVE FORTY FOUR NINE NINETY ONE SEVEN SEVENTY
    SIX SIXTY TEN THIRTY THREE TWENTY TWO ) SIGN( ANUSVARA AVAGRAHA CANDRABINDU VIRAMA VISARGA )
    VOWEL_SIGN( AA AI AU E I II O U UU VOCALIC( L R RR ) ) ) BIG( REVERSE_SOLIDUS SOLIDUS )
    BIOHAZARD/BITCOIN( SIGN ) BLACK( BOWTIE CENTRE_WHITE_STAR CROSS_ON_SHIELD DROPLET FLAG
    FLORETTE FOLDER FOUR_POINTED_STAR HARD_SHELL_FLOPPY_DISK HEXAGON HORIZONTAL_ELLIPSE HOURGLASS
    LOZENGE MOON_LILITH NIB OCTAGON PARALLELOGRAM PENNANT PENTAGON PUSHPIN QUESTION_MARK_ORNAMENT
    RECTANGLE ROSETTE SAFETY_SCISSORS SCISSORS SHOGI_PIECE SKULL_AND_CROSSBONES SMILING_FACE
    SNOWMAN STAR SUN_WITH_RAYS TELEPHONE TOUCHTONE_TELEPHONE TRUCK TWO-WAY_LEFT_WAY_TRAFFIC
    UNIVERSAL_RECYCLING_SYMBOL CHESS( KNIGHT-BISHOP KNIGHT-QUEEN KNIGHT-ROOK
    BISHOP/KING/PAWN/QUEEN/ROOK=( ROTATED( NINETY_DEGREES TWO_HUNDRED_SEVENTY_DEGREES ) )
    EQUIHOPPER=( ROTATED_NINETY_DEGREES ) KNIGHT=( ROTATED( ONE_HUNDRED_THIRTY-FIVE_DEGREES
    THREE_HUNDRED_FIFTEEN_DEGREES FORTY-FIVE/NINETY( DEGREES ) TWO_HUNDRED( SEVENTY/TWENTY-FIVE(
    DEGREES ) ) ) ) TURNED( BISHOP KING KNIGHT PAWN QUEEN ROOK ) ) CIRCLE=( FOR_RECORD WITH(
    DOWN_ARROW TWO_WHITE_DOTS WHITE_DOT_RIGHT ) ) CLUB/SPADE( SUIT ) CURVED( DOWNWARDS/UPWARDS(
    AND( LEFTWARDS/RIGHTWARDS( ARROW ) ) ) LEFTWARDS/RIGHTWARDS( AND( DOWNWARDS/UPWARDS( ARROW ) )
    ) ) DIAMOND=( CENTRED MINUS_WHITE_X ON_CROSS SUIT WITH_DOWN_ARROW ) DOWN/UP(
    POINTING_BACKHAND_INDEX ) DOWN-POINTING/UP-POINTING( ISOSCELES_RIGHT_TRIANGLE TRIANGLE
    DOUBLE/SMALL( TRIANGLE ) ) DOWNWARDS/UPWARDS( EQUILATERAL_ARROWHEAD ) DRAUGHTS( KING MAN )
    HEART=( SUIT ) LARGE( CIRCLE SQUARE ) LEFT( LANE_MERGE POINTING( BACKHAND_INDEX INDEX ) )
    LEFT-POINTING( ISOSCELES_RIGHT_TRIANGLE POINTER SMALL_TRIANGLE TRIANGLE DOUBLE_TRIANGLE=(
    WITH_VERTICAL_BAR ) ) LEFTWARDS( BULLET EQUILATERAL_ARROWHEAD ) LOWER/UPPER( LEFT/RIGHT(
    TRIANGLE ) ) MEDIUM( DIAMOND LOZENGE SQUARE
    DOWN-POINTING/LEFT-POINTING/RIGHT-POINTING/UP-POINTING( TRIANGLE=( CENTRED ) ) SMALL( DIAMOND
    LOZENGE SQUARE ) ) RIGHT-POINTING( ISOSCELES_RIGHT_TRIANGLE PENTAGON POINTER SMALL_TRIANGLE
    DOUBLE_TRIANGLE=( WITH_VERTICAL_BAR ) TRIANGLE=( WITH_DOUBLE_VERTICAL_BAR ) ) RIGHTWARDS(
    ARROW ARROWHEAD BULLET EQUILATERAL_ARROWHEAD ) RIGHT_POINTING( BACKHAND_INDEX INDEX )
    SLIGHTLY_SMALL( CIRCLE SQUARE ) SMALL( DIAMOND LOZENGE SQUARE STAR ) SQUARE=( BUTTON CENTRED
    FOR_STOP ) TINY( DIAMOND LOZENGE SQUARE ) VERTICAL( ELLIPSE RECTANGLE ) VERY_SMALL( DIAMOND
    LOZENGE SQUARE ) ) BLACK-FEATHERED( RIGHTWARDS_ARROW NORTH/SOUTH( EAST_ARROW ) )
    BLACK-LETTER_CAPITAL( C H I R Z ) BLOCK( SEXTANT-12345 SEXTANT-12346 SEXTANT-1234:1236
    SEXTANT-12356 SEXTANT-123:126 SEXTANT-1245 SEXTANT-12456 SEXTANT-1246 SEXTANT-1256
    SEXTANT-12:16 SEXTANT-134 SEXTANT-1345 SEXTANT-13456 SEXTANT-1346 SEXTANT-1356 SEXTANT-136
    SEXTANT-145 SEXTANT-1456 SEXTANT-146 SEXTANT-156 SEXTANT-1:6 SEXTANT-2345 SEXTANT-23456
    SEXTANT-2346 SEXTANT-234:236 SEXTANT-2356 SEXTANT-23:26 SEXTANT-245 SEXTANT-2456 SEXTANT-256
    SEXTANT-345 SEXTANT-3456 SEXTANT-346 SEXTANT-34:36 SEXTANT-356 SEXTANT-45 SEXTANT-456
    SEXTANT-46 SEXTANT-56 ) BLUE( BOOK HEART ) BOLD( GREEK_CROSS SALTIRE EIGHT/FIVE/SIX(
    SPOKED_ASTERISK ) WHITE( CIRCLE SQUARE ) ) BOOKMARK=( TABS ) BOPOMOFO( FINAL_LETTER( G H K P T
    ) LETTER( A AH AI AINN AM AN ANG ANN AU AUNN B BU C CH D E EE EH EI EN ENG ENN ER F G GH GN GU
    GW H I IH IM INN INNN IR IU J JI K KW L LH M N NG NGG NN OE OM ONG ONN OO OU P Q R S SH T U
    UNN V X Z ZH ZI ZY O=( WITH_DOT_ABOVE ) ) ) BOTTOM( ARC_ANTICLOCKWISE_ARROW CURLY_BRACKET
    PARENTHESIS TORTOISE_SHELL_BRACKET HALF( BLACK_CIRCLE INTEGRAL LEFT/RIGHT( PARENTHESIS ) )
    LEFT/RIGHT( CORNER CROP HALF_BRACKET ) SQUARE_BRACKET=( OVER_TOP_SQUARE_BRACKET ) ) BOUQUET=(
    OF_FLOWERS ) BOWL( OF_HYGIEIA WITH_SPOON ) BOWTIE=( WITH( LEFT/RIGHT( HALF_BLACK ) ) )
    BOX_DRAWINGS( DOUBLE( HORIZONTAL DOWN/UP( AND( HORIZONTAL LEFT RIGHT ) ) VERTICAL=( AND(
    HORIZONTAL LEFT RIGHT ) ) ) DOWN( DOUBLE_AND( HORIZONTAL/LEFT/RIGHT( SINGLE ) ) HEAVY_AND(
    HORIZONTAL_LIGHT UP_HORIZONTAL_LIGHT LEFT/RIGHT( LIGHT UP_LIGHT ) ) LIGHT_AND(
    HORIZONTAL_HEAVY UP_HORIZONTAL_HEAVY LEFT/RIGHT( HEAVY UP_HEAVY ) ) SINGLE_AND(
    HORIZONTAL/LEFT/RIGHT( DOUBLE ) ) ) HEAVY( HORIZONTAL RIGHT DOUBLE/QUADRUPLE/TRIPLE( DASH(
    HORIZONTAL VERTICAL ) ) DOWN/VERTICAL=( AND( HORIZONTAL LEFT RIGHT ) ) LEFT=( AND_LIGHT_RIGHT
    ) UP=( AND( HORIZONTAL LEFT LIGHT_DOWN RIGHT ) ) ) LEFT( DOWN_HEAVY_AND_RIGHT_UP_LIGHT
    UP_HEAVY_AND_RIGHT_DOWN_LIGHT HEAVY_AND_RIGHT( DOWN/UP/VERTICAL( LIGHT ) ) LIGHT_AND_RIGHT(
    DOWN/UP/VERTICAL( HEAVY ) ) ) LIGHT( RIGHT ARC( DOWN/UP( AND( LEFT RIGHT ) ) ) DIAGONAL( CROSS
    DIAMOND MIDDLE( LEFT_TO( LOWER_CENTRE=( TO_MIDDLE_RIGHT ) UPPER_CENTRE_TO_MIDDLE_RIGHT=(
    TO_LOWER_CENTRE ) ) RIGHT_TO( LOWER_CENTRE UPPER_CENTRE_TO_MIDDLE_LEFT_TO_LOWER_CENTRE ) )
    UPPER( LEFT_TO_LOWER_RIGHT RIGHT_TO_LOWER_LEFT CENTRE_TO_MIDDLE( LEFT=(
    AND_MIDDLE_RIGHT_TO_LOWER_CENTRE TO_LOWER_CENTRE=( TO_MIDDLE_RIGHT ) ) RIGHT=(
    AND_MIDDLE_LEFT_TO_LOWER_CENTRE TO_LOWER_CENTRE=( TO_MIDDLE_LEFT ) ) ) ) )
    DOUBLE/QUADRUPLE/TRIPLE( DASH( HORIZONTAL VERTICAL ) ) DOWN/VERTICAL=( AND( HORIZONTAL LEFT
    RIGHT ) ) HORIZONTAL=( WITH_VERTICAL_STROKE ) LEFT=( AND_HEAVY_RIGHT ) UP=( AND( HEAVY_DOWN
    HORIZONTAL LEFT RIGHT ) ) ) RIGHT( DOWN_HEAVY_AND_LEFT_UP_LIGHT UP_HEAVY_AND_LEFT_DOWN_LIGHT
    HEAVY_AND_LEFT( DOWN/UP/VERTICAL( LIGHT ) ) LIGHT_AND_LEFT( DOWN/UP/VERTICAL( HEAVY ) ) ) UP(
    DOUBLE_AND( HORIZONTAL/LEFT/RIGHT( SINGLE ) ) HEAVY_AND( DOWN_HORIZONTAL_LIGHT
    HORIZONTAL_LIGHT LEFT/RIGHT( DOWN_LIGHT LIGHT ) ) LIGHT_AND( DOWN_HORIZONTAL_HEAVY
    HORIZONTAL_HEAVY LEFT/RIGHT( DOWN_HEAVY HEAVY ) ) SINGLE_AND( HORIZONTAL/LEFT/RIGHT( DOUBLE )
    ) ) VERTICAL( DOUBLE_AND( HORIZONTAL/LEFT/RIGHT( SINGLE ) ) HEAVY_AND( HORIZONTAL/LEFT/RIGHT(
    LIGHT ) ) LIGHT_AND( HORIZONTAL/LEFT/RIGHT( HEAVY ) ) SINGLE_AND( HORIZONTAL/LEFT/RIGHT(
    DOUBLE ) ) ) ) BRAHMI( DANDA DOUBLE_DANDA VIRAMA DIGIT( EIGHT FIVE FOUR NINE ONE SEVEN SIX
    THREE TWO ZERO ) LETTER( A AA AI AU BA BHA CA CHA DA DDA DDHA DHA E GA GHA HA I II JA JHA KA
    KHA LA LLA MA NA NGA NNA NYA O PA PHA RA SA SHA SSA TA THA TTA TTHA U UU VA YA OLD_TAMIL( LLA
    LLLA NNNA RRA SHORT( E O ) ) VOCALIC( L LL R RR ) ) NUMBER( EIGHT EIGHTY FIFTY FIVE FORTY FOUR
    JOINER NINE NINETY SEVEN SEVENTY SIX SIXTY TEN THIRTY THREE TWENTY TWO ONE=( HUNDRED THOUSAND
    ) ) PUNCTUATION( CRESCENT_BAR DOT DOUBLE_DOT LINE LOTUS ) SIGN( ANUSVARA CANDRABINDU
    JIHVAMULIYA OLD_TAMIL_VIRAMA UPADHMANIYA VISARGA ) VOWEL_SIGN( AA AI AU BHATTIPROLU_AA E I II
    O U UU OLD_TAMIL_SHORT( E O ) VOCALIC( L LL R RR ) ) ) BRAILLE_PATTERN( BLANK DOTS-1234567
    DOTS-12345678 DOTS-1234568 DOTS-123456:123458 DOTS-1234578 DOTS-12345:12348 DOTS-123467
    DOTS-1234678 DOTS-123468 DOTS-123478 DOTS-1234:1238 DOTS-123567 DOTS-1235678 DOTS-123568
    DOTS-12356:12358 DOTS-123578 DOTS-12367 DOTS-123678 DOTS-12368 DOTS-12378 DOTS-123:128
    DOTS-124567 DOTS-1245678 DOTS-124568 DOTS-12456:12458 DOTS-124578 DOTS-1245:1248 DOTS-12467
    DOTS-124678 DOTS-12468 DOTS-12478 DOTS-12567 DOTS-125678 DOTS-12568 DOTS-1256:1258 DOTS-12578
    DOTS-1267 DOTS-12678 DOTS-1268 DOTS-1278 DOTS-12:18 DOTS-134567 DOTS-1345678 DOTS-134568
    DOTS-13456:13458 DOTS-134578 DOTS-1345:1348 DOTS-13467 DOTS-134678 DOTS-13468 DOTS-13478
    DOTS-134:138 DOTS-13567 DOTS-135678 DOTS-13568 DOTS-1356:1358 DOTS-13578 DOTS-1367 DOTS-13678
    DOTS-1368 DOTS-1378 DOTS-14567 DOTS-145678 DOTS-14568 DOTS-1456:1458 DOTS-14578 DOTS-145:148
    DOTS-1467 DOTS-14678 DOTS-1468 DOTS-1478 DOTS-1567 DOTS-15678 DOTS-1568 DOTS-156:158 DOTS-1578
    DOTS-167 DOTS-1678 DOTS-168 DOTS-178 DOTS-1:8 DOTS-234567 DOTS-2345678 DOTS-234568
    DOTS-23456:23458 DOTS-234578 DOTS-2345:2348 DOTS-23467 DOTS-234678 DOTS-23468 DOTS-23478
    DOTS-234:238 DOTS-23567 DOTS-235678 DOTS-23568 DOTS-2356:2358 DOTS-23578 DOTS-2367 DOTS-23678
    DOTS-2368 DOTS-2378 DOTS-23:28 DOTS-24567 DOTS-245678 DOTS-24568 DOTS-2456:2458 DOTS-24578
    DOTS-245:248 DOTS-2467 DOTS-24678 DOTS-2468 DOTS-2478 DOTS-2567 DOTS-25678 DOTS-2568
    DOTS-256:258 DOTS-2578 DOTS-267 DOTS-2678 DOTS-268 DOTS-278 DOTS-34567 DOTS-345678 DOTS-34568
    DOTS-3456:3458 DOTS-34578 DOTS-345:348 DOTS-3467 DOTS-34678 DOTS-3468 DOTS-3478 DOTS-34:38
    DOTS-3567 DOTS-35678 DOTS-3568 DOTS-356:358 DOTS-3578 DOTS-367 DOTS-3678 DOTS-368 DOTS-378
    DOTS-4567 DOTS-45678 DOTS-4568 DOTS-456:458 DOTS-4578 DOTS-45:48 DOTS-467 DOTS-4678 DOTS-468
    DOTS-478 DOTS-567 DOTS-5678 DOTS-568 DOTS-56:58 DOTS-578 DOTS-67 DOTS-678 DOTS-68 DOTS-78 )
    BROKEN( BAR CIRCLE_WITH_NORTHWEST_ARROW HEART ) BUGINESE( END_OF_SECTION PALLAWA LETTER( A BA
    CA DA GA HA JA KA LA MA MPA NA NGA NGKA NRA NYA NYCA PA RA SA TA VA YA ) VOWEL_SIGN( AE E I O
    U ) ) BUHID( LETTER( A BA DA GA HA I KA LA MA NA NGA PA RA SA TA U WA YA ) VOWEL_SIGN( I U ) )
    BULLET=( OPERATOR ) BULLHORN=( WITH_SOUND_WAVES ) BUS=( STOP ) BUST/BUSTS( IN_SILHOUETTE )
    BYZANTINE_MUSICAL_SYMBOL( ANATRICHISMA ANTIKENOKYLISMA ANTIKENOMA APLI APOTHEMA ARGON
    ARGOSYNTHETON CHAMILI CHAMILON DASEIA DIARGON DIFTOGGOS_OU DIGRAMMA_GG DYO EKSTREPTON ELAFRON
    ENARXIS_KAI_FTHORA_VOU ENDOFONON EPEGERMA EXO_EKFONITIKON FHTORA_SKLIRON_CHROMA_VASIS
    GORGOSYNTHETON GRONTHISMATA ICHADIN IMIDIARGON IMIFONON IMIFTHORA IMIFTHORON
    ISAKIA_TELOUS_ICHIMATOS KATAVASMA KATAVA_TROMIKON KATHISTI KORONIS KOUFISMA KRATIMATA
    KRATIMOKOUFISMA KRATIMOYPORROON KREMASTI KYLISMA LEMOI LYGISMA MIKRON_ISON NANA OMALON
    PARICHON PERISPOMENI PETASMA PETASTI PETASTOKOUFISMA PSIFISTOLYGISMA PSIFISTOPARAKALESMA
    PSIFISTOSYNAGMA PSILI PSILON RAPISMA REVMA SAXIMATA STIGMA STRAGGISMATA SYNEVMA SYRMA
    SYRMATIKI TELEIA TESSERA TETRAPLI THES_KAI_APOTHES THITA TINAGMA TRIA TRIGORGON TRIPLI
    TROMIKOLYGISMA TROMIKOPARAKALESMA TROMIKOPSIFISTON TROMIKOSYNAGMA VATHY XIRON_KLASMA YPORROI
    YPSILI AGOGI( ARGI ARGOTERI GORGI GORGOTERI MESI METRIA POLI( ARGI GORGI ) ) APESO(
    EKFONITIKON EXO_NEO ) APODERMA/CHOREVMA/ISON/OLIGON/OYRANISMA/PARAKALESMA/PIASMA( ARCHAION NEO
    ) APOSTROFOI( SYNDESMOS_NEO TELOUS_ICHIMATOS ) APOSTROFOS=( DIPLI NEO ) ARKTIKO( DI GA KE NI
    PA VOU ZO ) CHROA( KLITON SPATHI ZYGOS ) DIASTOLI( DIPLI THESEOS APLI( MEGALI MIKRI ) )
    DIESIS( APLI_DYO_DODEKATA DIGRAMMOS_EX_DODEKATA MONOGRAMMOS_TESSERA_DODEKATA TETARTIMORION
    TRIGRAMMOS_OKTO_DODEKATA TRITIMORION ) DIGORGON=( PARESTIGMENON( DEXIA ARISTERA( ANO KATO ) )
    ) DIPLI=( ARCHAION ) ETERON( ARGOSYNTHETON PARAKALESMA ) FANEROSIS( DIFONIAS MONOFONIAS
    TETRAFONIAS ) FTHORA( ENARMONIOS_ANTIFONIA I_YFESIS_TETARTIMORION NAOS_ICHOS NENANO ARCHAION=(
    DEYTEROU_ICHOU ) DIATONIKI( DI KE NANA PA ZO NI( ANO KATO ) ) MALAKON_CHROMA( DIFONIAS
    MONOFONIAS ) SKLIRON( DIATONON_DI CHROMA( SYNAFI VASIS ) ) ) GENIKI( DIESIS YFESIS ) GORGON(
    ARCHAION NEO( ANO KATO ) PARESTIGMENON( ARISTERA DEXIA ) ) GORTHMIKON_N( APLOUN DIPLOUN )
    KENTIMA( ARCHAION NEO( ANO KATO MESO ) ) KENTIMATA=( ARCHAION NEO( ANO KATO MESO ) ) KLASMA=(
    ANO KATO ) KONTEVMA=( ALLO ) KRATIMA/TROMIKON( ALLO ARCHAION NEO ) LEIMMA( DYO/TESSARON/TRION(
    CHRONON ) ENOS/IMISEOS( CHRONOU ) ) MARTYRIA( TRIFONIAS ALLI( DEYTEROS/PROTOS( ICHOS ) )
    DEYTEROS/LEGETOS/PROTOS/PROTOVARYS/TRITOS/VARYS( ICHOS ) PLAGIOS( ICHOS TETARTOS_ICHOS )
    TETARTOS( ICHOS LEGETOS_ICHOS ) ) OXEIA/VAREIA( DIPLI EKFONITIKON NEO ) OXEIAI/VAREIAI(
    ARCHAION ) PARAKLITIKI=( ARCHAION NEO ) PELASTON/PSIFISTON/SEISMA=( NEO ) SIMANSIS(
    ARSEOS/THESEOS=( DISIMOU TETRASIMOU TRISIMOU ) ) STAVROS=( APODEXIA ) SYNAGMA( ARCHAION
    META_STAVROU NEO ) THEMA=( APLOUN ) THEMATISMOS( ESO EXO ) YFEN( ANO KATO ) YFESIS(
    APLI_DYO_DODEKATA DIGRAMMOS_EX_DODEKATA MONOGRAMMOS_TESSERA_DODEKATA TRIGRAMMOS_OKTO_DODEKATA
    TRITIMORION ) YPOKRISIS=( DIPLI ) )"),
  ('C', "CACTUS CADA_UNA CADUCEUS CALENDAR CALL_ME_HAND CAMPING CAN CANCELLATION_X CANCER CANDLE CANDY
    CANNED_FOOD CANOE CAPITULUM CAPRICORN CARE_OF CARON CAROUSEL_HORSE CARPENTRY_SAW CARP_STREAMER
    CARRIAGE_RETURN CARROT CAR_SLIDING CASTLE CCH CEDILLA CELTIC_CROSS CENTRE_LINE_SYMBOL CERES
    CGJ CHAINS CHAIR CHECK_MARK CHEERING_MEGAPHONE CHEESE_WEDGE CHEQUERED_FLAG CHERRIES
    CHERRY_BLOSSOM CHESTNUT CHICKEN CHILD CHILDREN_CROSSING CHIPMUNK CHIRON CHI_RHO CHOCOLATE_BAR
    CHOPSTICKS CHRISTMAS_TREE CHURCH CINEMA CIRCULATION_FUNCTION CIRCUMFLEX_ACCENT CIRCUS_TENT
    CLAMSHELL_MOBILE_PHONE CLAPPER_BOARD CLAPPING_HANDS_SIGN CLASSICAL_BUILDING
    CLEAR_SCREEN_SYMBOL CLIPBOARD CLOSE_UP COAT COCKROACH COCKTAIL_GLASS COCONUT COFFIN COIN COMET
    COMMA COMPASS COMPLEMENT COMPRESSION CONGRUENT_WITH_DOT_ABOVE CONICAL_TAPER CONJUNCTION
    CONTINUOUS_UNDERLINE_SYMBOL CONTOUR_INTEGRAL CONVENIENCE_STORE COOKED_RICE COOKIE COOKING
    CORAL CORNISH_VERSE_DIVIDER CORRESPONDS_TO COUCH_AND_LAMP COUNTERBORE COUNTERSINK
    COUPLE_WITH_HEART CR CRAB CREDIT_CARD CRESCENT_MOON CROCODILE CROISSANT CROSSING_LANES CROWN
    CRUTCH CSI CUBE_ROOT CUCUMBER CUPCAKE CUPIDO CURLING_STONE CURRY_AND_RICE
    CURVED_STEM_PARAGRAPH_SIGN_ORNAMENT CUSTARD CUSTOMS CUT_OF_MEAT CYCLONE CYLINDRICITY CAMERA=(
    WITH_FLASH ) CANADIAN_SYLLABICS( A AA AAI AAY AI AIVILIK_B AN AY BIBLE-CREE_Y C CA CAA CAAI CE
    CHI_SIGN CI CII CO COO CWA CWAA CWE CWI CWII CWO CWOO E EN F FA FAA FAAI FE FI FII FO FOO FWAA
    HK HYPHEN I II IN K KA KAA KAAI KAY KE KI KII KO KOO KW KWA KWAA KWAY KWE KWI KWII KWO KWOO L
    LA LAA LAAI LAY LE LH LHA LHAA LHI LHII LHO LHOO LI LII LO LOO LWA LWAA LWE LWI LWII LWO LWOO
    M MA MAA MAAI MAY ME MH MI MII MO MOO MOOSE-CREE_SK MWA MWAA MWE MWI MWII MWO MWOO N NA NAA
    NAAI NAY NE NG NGA NGAA NGAAI NGAI NGI NGII NGO NGOO NH NI NII NNG NNGA NNGAA NNGI NNGII NNGO
    NNGOO NO NOO NOY NUNAVUT_H NWA NWAA NWE NWI NWII NWO NWOO O ON OO OY P PA PAA PAAI PAY PE PI
    PII PO POO POY PWA PWAA PWE PWI PWII PWO PWOO PWOY Q QA QAA QAAI QAI QI QII QO QOO R RA RAA
    RAAI RAY RE RI RII RO ROO RWA RWAA RWEE RWI RWII RWO RWOO S SA SAA SAAI SAY SE SH SHA SHAA
    SHAY SHE SHI SHII SHO SHOO SHOY SHWA SHWAA SHWE SHWI SHWII SHWO SHWOO SHWOY SI SII SO SOO SOY
    SPA SPE SPI SPO SW SWA SWAA SWE SWI SWII SWO SWOO T TA TAA TAAI TAY TE TH THA THAA THE THI
    THII THO THOO THWA THWAA THWE TI TII TLHA TLHE TLHI TLHO TLHOO TLHWE TO TOO TTA TTE TTH TTHA
    TTHAA TTHE TTHI TTHO TTHOO TTHWE TTI TTO TWA TWAA TWE TWI TWII TWO TWOO TYA TYE TYI TYO WA WAA
    WAY WE WI WII WO WOO Y YA YAA YAAI YAY YE YI YII YO YOO YOY YWA YWAA YWE YWI YWII YWO YWOO
    ATHAPASCAN( M S ) BEAVER_DENE( L R ) BLACKFOOT( A E I KA KE KI KO NA NE NI NO O S W WA WE WI
    WO ) CARRIER( CHA CHE CHEE CHI CHO CHU DEE DENE_GEE DENTAL_S DI DLA DLE DLEE DLI DLO DLU DZA
    DZE DZEE DZI DZO DZU EE GA GAA GE GEE GHA GHE GHEE GHI GHO GHU GI GO GU GWA GWU H HEE HI HWA
    HWE HWEE HWI HWO HWU I INITIAL_Z JA JE JEE JI JJA JJE JJEE JJI JJO JJU JO JU JWA KHA KHE KHEE
    KHI KHO KHU KK KKA KKE KKEE KKI KKO KKU LA LE LEE LHA LHE LHEE LHI LHO LHU LI LO LU MA ME MEE
    MI MO MU NA NE NEE NG NI NO NU P PA PE PEE PI PO PU RA RE REE RI RO RU SA SE SEE SH SHA SHE
    SHEE SHI SHO SHU SI SO SU THA THE THEE THI THO THU TLA TLE TLEE TLHA TLHE TLHEE TLHI TLHO TLHU
    TLI TLO TLU TSA TSE TSEE TSI TSO TSU TTA TTE TTEE TTI TTO TTSA TTSE TTSEE TTSI TTSO TTSU TTU
    WA WE WEE WI WO WU YA YE YEE YI YO YU Z ZA ZE ZEE ZI ZO ZU ) EASTERN/WESTERN( W ) FINAL( ACUTE
    DOWN_TACK GRAVE PLUS RING SHORT_HORIZONTAL_STROKE SMALL_RING BOTTOM/RIGHT/TOP( HALF_RING )
    DOUBLE( ACUTE SHORT_VERTICAL_STROKES ) MIDDLE/RAISED( DOT ) ) FULL/GLOTTAL( STOP ) MEDIAL( L R
    ) N-CREE( THE THI THII ) NASKAPI( CWAA KWAA MWAA NWAA S-W SCWA SKW SKWA SPWA STWA SWAA TWAA
    WAA WOO YWAA ) NATTILIK( HA HAA HI HII HO HOO SHRA SHRAA SHRI SHRII SHRO SHROO ) NUNAVIK( H HA
    HAA HE HI HII HO HOO ) OJIBWAY( C K M N NWI NWII NWO NWOO P S SH T ) R-CREE( RE RWE ) SAYISI(
    HA HE HI HO HOO JI JU JUU M SHA SHE SHI SHO SHOO SHWE TH YI ) SOUTH-SLAVEY( KAH KEH KIH KOH )
    TH-CREE( TH THA THAA THE THI THII THO THOO ) WEST-CREE( CWA CWAA CWE CWI CWII CWO CWOO FWAA
    KWA KWAA KWE KWI KWII KWO KWOO L LA LAA LE LO LOO LWA LWAA LWE LWI LWII LWO LWOO M MWA MWAA
    MWE MWI MWII MWO MWOO NWA NWAA NWE P PWA PWAA PWE PWI PWII PWO PWOO R RA RE RI RO RWAA SHWA
    SHWAA SHWE SHWI SHWII SHWO SHWOO SWA SWAA SWE SWI SWII SWO SWOO THWAA TWA TWAA TWE TWI TWII
    TWO TWOO WA WAA WE WI WII WO WOO Y YWA YWAA YWE YWI YWII YWO YWOO ) WOODS-CREE( FINAL_TH TH
    THA THE THI THO THWA THWAA THWEE THWI THWII THWO THWOO ) Y-CREE( COO KOO LOO MOO NOO OO POO
    PWAA SOO TOO W YOO ) ) CANCEL=( CHARACTER TAG ) CARD( FILE_BOX INDEX=( DIVIDERS ) ) CARET=(
    INSERTION_POINT ) CARIAN_LETTER( A A2 B C-18 C-39 D D2 E E2 G G2 I II K K2 L LD LD2 M MB MB2:4
    N ND NG NN O P P2 Q R RR S SH SH2 SS ST ST2 T TT TT2 U UU UUU UUU2 UUU3 UUUU X ) CAT=( FACE=(
    WITH( TEARS_OF_JOY WRY_SMILE ) ) ) CAUCASIAN_ALBANIAN( CITATION_MARK LETTER( ALT AOR BET CAR
    CAYN CHA CHAT CHI CHOY CYAW CYAY DAT DYAN DZAY DZYAY EB EYN FAM GHEYS GIM HEYT INYA IRB IWN
    JAYN JHOX KAR KIW LAN LYIT MAQ NOWC ON PEN PIWR QAR QAY RAT SEYK SHA SHAK SHOY TAS TIWR TYAY
    VEYZ XEYN YAYD YOWD ZARL ZHA ZHIL ) ) CAUTION/CEDI/CENT/COPYRIGHT/CRUZEIRO( SIGN ) CENTRELINE(
    LOW_LINE OVERLINE ) CHAKMA( DANDA DOUBLE_DANDA MAAYYAA VIRAMA AU/O/QUESTION/SECTION( MARK )
    DIGIT( EIGHT FIVE FOUR NINE ONE SEVEN SIX THREE TWO ZERO ) LETTER( AA BAA BHAA CAA CHAA DAA
    DDAA DDHAA DHAA E GAA GHAA HAA I JAA JHAA KAA KHAA LAA LHAA MAA NAA NGAA NNAA NYAA PAA PHAA
    RAA SAA TAA THAA TTAA TTHAA U VAA WAA YAA YYAA ) SIGN( ANUSVARA CANDRABINDU VISARGA )
    VOWEL_SIGN( A AA AI AU E EI I II O OI U UU ) ) CHAM( CONSONANT_SIGN( LA RA WA YA FINAL( H M NG
    ) ) DIGIT( EIGHT FIVE FOUR NINE ONE SEVEN SIX THREE TWO ZERO ) LETTER( A AI BA BBA BHA CHA
    CHHA DA DDA DHA E GA GHA HA I JA JHA KA KHA LA MA MUE NA NGA NGUE NHA NHJA NHUE NUE O PA PHA
    PPA RA SA SSA TA THA U VA YA FINAL( CH G K L N NG P R SS T Y ) ) PUNCTUATION( DANDA SPIRAL
    DOUBLE/TRIPLE( DANDA ) ) VOWEL_SIGN( AA AI AU EI I II O OE U UE ) ) CHARACTER( TIE
    TABULATION=( SET WITH_JUSTIFICATION ) ) CHART_WITH( DOWNWARDS_TREND UPWARDS_TREND=(
    AND_YEN_SIGN ) ) CHECKER_BOARD=( FILL ) CHEROKEE( LETTER( A DA DE DI DLA DO DU DV E GA GE GI
    GO GU GV HA HE HI HNA HO HU HV I KA LA LE LI LO LU LV MA ME MI MO MU MV NA NAH NE NI NO NU NV
    O QUA QUE QUI QUO QUU QUV S SA SE SI SO SU SV TA TE TI TLA TLE TLI TLO TLU TLV TSA TSE TSI TSO
    TSU TSV U V WA WE WI WO WU WV YA YE YI YO YU YV ) SMALL_LETTER( A DA DE DI DLA DO DU DV E GA
    GE GI GO GU GV HA HE HI HNA HO HU HV I KA LA LE LI LO LU LV MA ME MI MO MU MV NA NAH NE NI NO
    NU NV O QUA QUE QUI QUO QUU QUV S SA SE SI SO SU SV TA TE TI TLA TLE TLI TLO TLU TLV TSA TSE
    TSI TSO TSU TSV U V WA WE WI WO WU WV YA YE YI YO YU YV ) ) CHORASMIAN( LETTER( ALEPH AYIN
    BETH CURLED_WAW DALETH GIMEL HE HETH KAPH LAMEDH MEM NUN PE RESH SAMEKH SHIN SMALL_ALEPH TAW
    WAW YODH ZAYIN ) NUMBER( FOUR TEN THREE TWENTY TWO ONE=( HUNDRED ) ) ) CIRCLE(
    DIVIDED_BY_HORIZONTAL_BAR_AND_TOP_HALF_DIVIDED_BY_VERTICAL_BAR WITH(
    ALL_BUT_UPPER_LEFT_QUADRANT_BLACK HORIZONTAL_BAR SMALL_CIRCLE_TO_THE_RIGHT SUPERIMPOSED_X
    TWO_HORIZONTAL_STROKES_TO_THE_RIGHT VERTICAL_FILL LEFT/LOWER/RIGHT( HALF_BLACK ) UPPER(
    HALF_BLACK RIGHT_QUADRANT_BLACK ) ) ) CIRCLED( ANTICLOCKWISE-ROTATED_DIVISION_SIGN
    ANTICLOCKWISE_ARROW BOLD_X BULLET CC CD CROSSING_LANES C_WITH_OVERLAID_BACKSLASH DASH
    DOLLAR_SIGN_WITH_OVERLAID_BACKSLASH EQUALS GREATER-THAN HEAVY_WHITE_RIGHTWARDS_ARROW
    HORIZONTAL_BAR_WITH_NOTCH HUMAN_FIGURE INFORMATION_SOURCE LESS-THAN MINUS
    MULTIPLICATION_SIGN_WITH_CIRCUMFLEX_ACCENT OPEN_CENTRE_EIGHT_POINTED_STAR PARALLEL
    PERPENDICULAR PLUS POSTAL_MARK REVERSE_SOLIDUS SQUARE TIMES VERTICAL_BAR WZ X ZERO_WITH_SLASH
    ASTERISK/DOT/RING( OPERATOR ) CROSS( POMMEE FORMEE=( WITH( FOUR/TWO( DOTS ) ) ) ) DIGIT( EIGHT
    FIVE FOUR NINE ONE SEVEN SIX THREE TWO ZERO ) DIVISION( SIGN SLASH ) HANGUL(
    CHIEUCH/CIEUC/HIEUH/KHIEUKH/KIYEOK/MIEUM/NIEUN/PHIEUPH/PIEUP/RIEUL/SIOS/THIEUTH/TIKEUT=( A )
    IEUNG=( A U ) ) IDEOGRAPH( ACCEPT ADVANTAGE ALLIANCE ATTENTION CENTRE CONGRATULATION COPY
    CORRECT EARTH EIGHT ENTERPRISE EXCELLENT FEMALE FINANCIAL FIRE FIVE FOUR HAVE HIGH ITEM
    KINDERGARTEN KOTO LABOR LEFT LOW MALE MEDICINE METAL MOON NAME NIGHT NINE ONE PRINT QUESTION
    RELIGION RESOURCE REST RIGHT SCHOOL SECRET SEVEN SIX SOCIETY SPECIAL STOCK STUDY SUITABLE SUN
    SUPERVISE TEN THREE TWO WATER WOOD ) ITALIC_LATIN_CAPITAL_LETTER( C R ) KATAKANA( A E HA HE HI
    HO HU I KA KE KI KO KU MA ME MI MO MU NA NE NI NO NU O RA RE RI RO RU SA SE SI SO SU TA TE TI
    TO TU U WA WE WI WO YA YO YU ) KOREAN_CHARACTER( CHAMKO JUEUI ) LATIN( CAPITAL/SMALL( LETTER(
    A B C D E F G H I J K L M N O P Q R S T U V W X Y Z ) ) ) NUMBER( EIGHTEEN ELEVEN FIFTEEN
    FOURTEEN NINETEEN SEVENTEEN SIXTEEN THIRTEEN TWELVE EIGHTY/SEVENTY/SIXTY( ON_BLACK_SQUARE )
    FIFTY/TEN=( ON_BLACK_SQUARE ) FORTY/THIRTY/TWENTY=( EIGHT FIVE FOUR NINE ONE ON_BLACK_SQUARE
    SEVEN SIX THREE TWO ) ) TRIANGLE=( DOWN ) WHITE( BULLET STAR ) ) CITYSCAPE=( AT_DUSK ) CJK(
    RADICAL( BAMBOO BLUE BOLT_OF_CLOTH BONE BOX CHOKE CITY CIVILIAN CLIFF CLOTHES COW DEATH
    DIVINATION DOG EWE EYE FIRE FOOT GHOST HAND HEAD HORN JADE MEAT MESH MOON MORTAR MOTHER OLD
    PERSON RAIN RAM RAP REPEAT SEAL SHEEP SILK SNAKE SUN TABLE THREAD TIGER TURTLE
    BRUSH/HEART/KNIFE/LONG/MOUND/PAW/SMALL/SNOUT/SPIRIT/WALK/WATER/WEST( ONE TWO ) C-SIMPLIFIED(
    BIRD CART DRAGON EAT EVEN FISH FLY FROG GATE GOLD HORSE LEAF LONG SALT SEE SHELL SILK SPEECH
    TANNED_LEATHER TOOTH TURTLE WIND ) EAT/GRASS/SECOND( ONE THREE TWO ) J-SIMPLIFIED( DRAGON EVEN
    TOOTH TURTLE ) LAME/NET( FOUR ONE THREE TWO ) SIMPLIFIED( HALF_TREE_TRUNK HORN WALK WHEAT
    YELLOW ) ) STROKE( BXG D H HG HP HPWG HXWG HZ HZG HZT HZW HZWG HZZ HZZP HZZZ HZZZG N P PD PG
    PZ Q S SG SP ST SW SWG SWZ SZ SZWG SZZ T TN WG XG ) ) CLINKING( BEER_MUGS GLASSES ) CLOCKWISE(
    CONTOUR_INTEGRAL DOWNWARDS_AND_UPWARDS_OPEN_CIRCLE_ARROWS INTEGRAL
    RIGHT_AND_LEFT_SEMICIRCLE_ARROWS TOP_SEMICIRCLE_ARROW TRIANGLE-HEADED_OPEN_CIRCLE_ARROW
    CLOSED/GAPPED/OPEN( CIRCLE_ARROW ) RIGHTWARDS_AND_LEFTWARDS_OPEN_CIRCLE_ARROWS=(
    WITH_CIRCLED_ONE_OVERLAY ) ) CLOCK_FACE( EIGHT-THIRTY ELEVEN-THIRTY FIVE-THIRTY FOUR-THIRTY
    NINE-THIRTY ONE-THIRTY SEVEN-THIRTY SIX-THIRTY TEN-THIRTY THREE-THIRTY TWELVE-THIRTY
    TWO-THIRTY EIGHT/ELEVEN/FIVE/FOUR/NINE/ONE/SEVEN/SIX/TEN/THREE/TWELVE/TWO( OCLOCK ) ) CLOSED(
    BOOK INTERSECTION_WITH_SERIFS LOCK_WITH_KEY UMBRELLA MAILBOX_WITH( LOWERED/RAISED( FLAG ) )
    SUBSET/SUPERSET=( OR_EQUAL_TO ) UNION_WITH_SERIFS=( AND_SMASH_PRODUCT ) ) CLOUD=( WITH(
    LIGHTNING RAIN SNOW TORNADO ) ) CLOWN/CONFOUNDED/CONFUSED( FACE )
    COLLISION/COMPOSITION/COPYLEFT( SYMBOL ) COLON=( EQUALS SIGN ) COMBINING( ACUTE-GRAVE-ACUTE
    ACUTE-MACRON ANNUITY_SYMBOL BREVE-MACRON CANDRABINDU CEDILLA DIAERESIS-RING
    DOUBLED_CIRCUMFLEX_ACCENT DOWNWARDS_ARROW DOWN_TACK_BELOW FERMATA GRAPHEME_JOINER
    GRAVE-ACUTE-GRAVE GRAVE-MACRON HORN INFINITY LOW_LINE MACRON-ACUTE MACRON-BREVE MACRON-GRAVE
    NOT_TILDE_ABOVE NUMBER_SIGN_ABOVE OPEN_MARK_BELOW OVERLINE REVERSE_SOLIDUS_OVERLAY
    RIGHTWARDS_HARPOON_WITH_BARB_DOWNWARDS UPWARDS_ARROW_BELOW WIGGLY_LINE_BELOW ACUTE/GRAVE(
    TONE_MARK ACCENT=( BELOW ) ) ALMOST_EQUAL_TO( ABOVE BELOW ) ANTICLOCKWISE/CLOCKWISE(
    ARROW_ABOVE RING_OVERLAY ) ASTERISK/BRIDGE/X/ZIGZAG( ABOVE BELOW ) BINDU/IS/SEAGULL/SNAKE/X-X(
    BELOW ) BREVE/CARON/DIAERESIS=( BELOW ) CIRCUMFLEX_ACCENT=( BELOW ) COMMA( BELOW ABOVE=( RIGHT
    ) ) CONJOINING_MACRON=( BELOW ) CYRILLIC( KAVYKA MILLIONS_SIGN PALATALIZATION PAYEROK POKRYTIE
    VZMET DASIA/PSILI( PNEUMATA ) HUNDRED( MILLIONS/THOUSANDS( SIGN ) ) LETTER( A BE CHE DE DJERV
    EF EL EM EN ER ES ES-TE FITA GHE HA I IE KA MONOGRAPH_UK O OMEGA PE SHA SHCHA TE TSE U
    UKRAINIAN_IE VE YAT YERU YI YU ZE ZHE BIG/LITTLE( YUS ) HARD/SOFT( SIGN ) IOTIFIED( A BIG_YUS
    E ) ) TEN/THOUSAND( MILLIONS_SIGN ) TITLO=( LEFT/RIGHT( HALF ) ) ) DELETION/SUSPENSION( MARK )
    DEVANAGARI( SIGN_AVAGRAHA DIGIT( EIGHT FIVE FOUR NINE ONE SEVEN SIX THREE TWO ZERO ) LETTER( A
    KA NA PA RA U VI ) ) DOT( ABOVE=( LEFT RIGHT ) BELOW=( LEFT ) ) DOTTED( ACUTE/GRAVE( ACCENT )
    ) DOUBLE( LOW_LINE OPEN_MARK_BELOW OVERLINE RIGHTWARDS_ARROW_BELOW RING_BELOW ACUTE/GRAVE(
    ACCENT ) BREVE/MACRON=( BELOW ) CIRCUMFLEX/PARENTHESES( ABOVE ) INVERTED_BREVE=( BELOW )
    PLUS_SIGN( ABOVE BELOW ) TILDE=( LEFT/RIGHT( HALF ) ) VERTICAL( STROKE_OVERLAY LINE( ABOVE
    BELOW ) ) ) ENCLOSING( DIAMOND KEYCAP SCREEN SQUARE UPWARD_POINTING_TRIANGLE CIRCLE=(
    BACKSLASH ) ) EQUALS/MINUS( SIGN_BELOW ) FOUR/THREE( DOTS_ABOVE ) GLAGOLITIC_LETTER( AZU BUKY
    CHRIVI DJERVI DOBRO FITA FRITU GLAGOLI HERU I INITIAL_IZHE IZHE KAKO LJUDIJE MYSLITE NASHI ONU
    POKOJI RITSI SHA SHTA SLOVO TSI TVRIDO UKU VEDE YATI YERI YERU YESTU YO YU ZEMLJA ZHIVETE
    BIG/SMALL( YUS ) IOTATED( BIG/SMALL( YUS ) ) ) GRANTHA( DIGIT( FIVE FOUR ONE SIX THREE TWO
    ZERO ) LETTER( A KA NA PA VI ) ) GREEK( DIALYTIKA_TONOS KORONIS PERISPOMENI YPOGEGRAMMENI
    MUSICAL( PENTASEME TETRASEME TRISEME ) ) HOMOTHETIC/HOOK/UR/US( ABOVE ) INVERTED( BRIDGE_BELOW
    BREVE=( BELOW ) DOUBLE_ARCH( ABOVE BELOW ) ) KATAKANA-HIRAGANA( SEMI-VOICED/VOICED( SOUND_MARK
    ) ) KAVYKA_ABOVE( LEFT RIGHT ) LATIN( LETTER_SMALL_CAPITAL( G L M N R ) SMALL_LETTER( AE ALPHA
    AO AV B BETA D E ESH ETH F FLATTENED_OPEN_A_ABOVE G H I K LONG_S M N P S SCHWA T
    TURNED_W_BELOW V X Z A=( WITH_DIAERESIS ) C=( CEDILLA ) INSULAR( D G R T ) L=(
    WITH_DOUBLE_MIDDLE_TILDE ) O/U=( WITH( DIAERESIS LIGHT_CENTRALIZATION_STROKE ) ) R=( BELOW
    ROTUNDA ) W=( BELOW ) ) ) LEFT( HARPOON_ABOVE TACK_BELOW ANGLE/ARROW/ARROWHEAD( ABOVE BELOW )
    HALF_RING( ABOVE BELOW ) PARENTHESIS( ABOVE/BELOW( LEFT ) ) RIGHT_ARROW( ABOVE BELOW ) )
    LEFTWARDS( ARROW_OVERLAY HARPOON_WITH_BARB_DOWNWARDS ) LIGATURE( LEFT/RIGHT( HALF=( BELOW ) )
    ) LIGHT/STRONG( CENTRALIZATION_STROKE_BELOW ) LONG( DOUBLE_SOLIDUS_OVERLAY
    VERTICAL_LINE_OVERLAY SOLIDUS/STROKE( OVERLAY ) ) MACRON=( BELOW LEFT/RIGHT( HALF=( BELOW ) )
    ) OGONEK=( ABOVE ) OLD_PERMIC_LETTER( AN DOI NENOE SII ZATA ) PALATALIZED/RETROFLEX(
    HOOK_BELOW ) PARENTHESES/RING( ABOVE BELOW OVERLAY ) PLUS_SIGN( ABOVE BELOW ) REVERSED/TURNED(
    COMMA_ABOVE ) RIGHT( HARPOON_ABOVE TACK_BELOW ARROW( ABOVE BELOW ) ARROWHEAD( ABOVE BELOW AND(
    DOWN/UP( ARROWHEAD_BELOW ) ) ) HALF_RING( ABOVE BELOW ) PARENTHESIS( ABOVE/BELOW( RIGHT ) ) )
    SHORT( VERTICAL_LINE_OVERLAY SOLIDUS/STROKE( OVERLAY ) ) SQUARE( BELOW BRACKETS_ABOVE )
    TILDE=( BELOW OVERLAY LEFT/RIGHT( HALF_BELOW ) ) TRIPLE( ACUTE_ACCENT DOT UNDERDOT ) UP_TACK(
    ABOVE BELOW ) VERTICAL( TILDE LINE( ABOVE BELOW ) ) WIDE( BRIDGE_ABOVE INVERTED_BRIDGE_BELOW )
    ) COMMERCIAL( AT MINUS_SIGN ) CONFETTI/CRYSTAL( BALL ) CONSTRUCTION( SIGN WORKER ) CONTAINS(
    AS( MEMBER NORMAL_SUBGROUP=( OR_EQUAL_TO ) ) WITH( LONG_HORIZONTAL_STROKE OVERBAR
    VERTICAL_BAR_AT_END_OF_HORIZONTAL_STROKE ) ) CONTROL( KNOBS SEQUENCE_INTRODUCER ) COPTIC(
    FRACTION_ONE_HALF FULL_STOP MORPHOLOGICAL_DIVIDER CAPITAL/SMALL( LETTER( ALFA CROSSED_SHEI
    DALDA DEI EIE FEI FI GAMMA GANGIA HATE HORI IAUDA KAPA KHEI KHI KSI L-SHAPED_HA LAULA MI NI O
    OOU PI PSI RO SAMPI SHEI SHIMA SIMA SOU TAU THETHE UA VIDA ZATA AKHMIMIC/BOHAIRIC( KHEI )
    CRYPTOGRAMMIC( EIE GANGIA NI SHEI ) DIALECT-P( ALEF HORI KAPA NI ) OLD( COPTIC( AIN DJA ESH
    GANGIA HA HAT HEI HORI OOU SHEI SHIMA ) NUBIAN( NGI NYI SHIMA WAU ) ) ) ) COMBINING( NI_ABOVE
    SPIRITUS( ASPER LENIS ) ) EPACT( THOUSANDS_MARK DIGIT( EIGHT FIVE FOUR NINE ONE SEVEN SIX
    THREE TWO ) NUMBER( EIGHTY FIFTY FORTY NINETY SEVENTY SIXTY TEN THIRTY TWENTY
    EIGHT/FIVE/FOUR/NINE/ONE/SEVEN/SIX/THREE/TWO( HUNDRED ) ) ) OLD_NUBIAN( FULL_STOP
    VERSE_DIVIDER DIRECT/INDIRECT( QUESTION_MARK ) ) SYMBOL( KAI SHIMA_SIMA STAUROS KHI/MI/PI/TAU(
    RO ) ) ) COUNTING_ROD( TENS/UNIT( DIGIT( EIGHT FIVE FOUR NINE ONE SEVEN SIX THREE TWO ) ) )
    COW=( FACE ) CRICKET=( BAT_AND_BALL ) CROSS( MARK OF( JERUSALEM LORRAINE ) PATTY_WITH(
    LEFT/RIGHT( CROSSBAR ) ) POMMEE=( WITH_HALF-CIRCLE_BELOW ) ) CROSSED( FLAGS
    NEGATIVE_SQUARED_LATIN_CAPITAL_LETTER_P SWORDS ) CRYING( CAT_FACE FACE ) CUNEIFORM(
    NUMERIC_SIGN( NIGIDAESH NIGIDAMIN EIGHT( ASH DISH GESH2 SHAR2 U=( VARIANT_FORM ) VARIANT_FORM(
    USSU USSU3 ) ) ELAMITE( FIFTY FORTY ONE_THIRD TWO_THIRDS ) FIVE( BURU DISH GESH2 GESHU SHAR2
    SHARU SIXTHS_DISH ASH=( TENU ) U/BAN2=( VARIANT_FORM ) ) FOUR( BURU DISH GESH2 GESHU SHAR2
    SHARU ASH=( TENU ) U/BAN2=( VARIANT_FORM ) VARIANT_FORM( LIMMU4 LIMMU=( A B ) ) ) NINE( ASH
    DISH GESH2 SHAR2 U=( VARIANT_FORM ) VARIANT_FORM( ILIMMU3 ILIMMU4 ILIMMU=( A ) ) )
    OLD_ASSYRIAN_ONE( QUARTER SIXTH ) ONE( BAN2 BURU EIGHTH_ASH ESHE3 GESH2 GESHU HALF_GUR SHARU
    QUARTER( ASH GUR ) THIRD( DISH VARIANT_FORM_A ) ) SEVEN( ASH DISH GESH2 SHAR2 U=( VARIANT_FORM
    ) VARIANT_FORM( IMIN3 IMIN( A B ) ) ) SHAR2_TIMES_GAL_PLUS( DISH MIN ) SIX( DISH GESH2 SHAR2
    VARIANT_FORM_ASH9 ASH=( TENU ) U=( VARIANT_FORM ) ) THREE( BAN2 DISH GESH2 GESHU ASH=( TENU )
    BURU/SHARU/SHAR2=( VARIANT_FORM ) VARIANT_FORM( ESH16 ESH21 ) ) TWO( BAN2 BURU ESHE3 GESH2
    GESHU SHAR2 SHARU ASH=( TENU ) THIRDS( DISH VARIANT_FORM_A ) ) ) PUNCTUATION_SIGN(
    OLD_ASSYRIAN_WORD_DIVIDER VERTICAL_COLON DIAGONAL( COLON QUADCOLON TRICOLON ) ) SIGN( A2 ALAN
    ALEPH ANSHE APIN ARKAB ASAL2 ASH2 ASHGAB BA BAG3 BALAG BAR BARA2 BUR BUR2 DAG3 DAM DAR DARA3
    DARA4 DI DIB DUB2 DUGUD DUH DUN DUN4 DUR2 EDIN EGIR EL EREN GALAM GAM GAN GAR GAR3 GASHAN GE22
    GIDIM GIG GISAL GUL GUR GUR7 GURUN GURUSH HAL HU HUL2 HUSH IB IG IL2 IMIN IN IR ISH KAB KAD2:4
    KAM2 KAM4 KAP_ELAMITE KESH2 KID KIN KISAL KISH KU3 KU7 KUN KUSHU2 KWU318 LA LAHSHU LAK-003
    LAK-021 LAK-025 LAK-030 LAK-050 LAK-051 LAK-062 LAK-079_OVER_LAK-079_GUNU LAK-080
    LAK-081_OVER_LAK-081 LAK-092 LAK-130 LAK-142 LAK-210 LAK-219 LAK-220 LAK-225 LAK-228 LAK-238
    LAK-265 LAK-266 LAK-343 LAK-347 LAK-348 LAK-383 LAK-384 LAK-390 LAK-441 LAK-450 LAK-457
    LAK-470 LAK-483 LAK-490 LAK-492 LAK-493 LAK-495 LAK-550 LAK-608 LAK-636 LAK-724 LAK-749 LI LIL
    LIMMU2 LISH LU3 LUH LUL MA2 MAH MAR MASH MASH2 ME MES MESH MIN MUNSUB MURGU2 NA NA2 NA4 NAGAR
    NAM2 NI2 NIN NIN9 NISAG NU PA PAD PAN PAP PIR2 RA RAB RI RU SA SANGA2 SAR SHA SHAB6 SHAR2
    SHEG9 SHEN SHESH SHESH2 SHESHLAM SHINIG SHITA SHUBUR SIG SIK2 SILA3 SUD SUD2 SUHUR SUM SUMASH
    SUR SUR9 TAR TI2 TIL TU TUG2 TUK U2 UB UDUG UMBIN UR4 URI URI3 USH2 USHUMX USHX UTUKI UZU ZA7
    ZAG ZAMX ZE2 ZI3 ZIG ZIZ2 ZUBUR ZUM A=( TIMES( A BAD GAN2_TENU HA IGI LAGAR_GUNU MUSH SAG ) )
    AB=( GUNU TIMES( ASH2 GAL GAN2_TENU HA IMIN LAGAB SHESH SHU2 U_PLUS_U_PLUS_U IGI/DUN3( GUNU )
    NUN=( TENU ) ) ) AB2=( TIMES( A BALAG GAN2_TENU ME_PLUS_EN SHA3 TAK4 ) ) AD=( TIMES_ESH2 )
    AK=( TIMES( ERIN2 SHITA_PLUS_GISH ) ) AL=( TIMES( AL DIM2 GISH HA KAD3 KI SHE USH ) ) AMAR=(
    TIMES( KUG SHE ) ) AN=( OVER_AN THREE_TIMES PLUS_NAGA( OPPOSING_AN_PLUS_NAGA SQUARED ) )
    ARAD=( TIMES_KUR ) ASH=( KABA/ZIDA( TENU ) OVER_ASH( TUG2_OVER_TUG2_TUG2_OVER_TUG2_PAP
    OVER_ASH=( CROSSING_ASH_OVER_ASH_OVER_ASH ) ) ) BAD=( TIMES_DISH_TENU ) BAHAR2=( TIMES( AB2 NI
    ZA ) ) BAL=( OVER_BAL ) BI=( TIMES( A GAR IGI_GUNU ) ) BU=( CROSSING_BU OVER_BU( AB TIMES_NA2
    UN ) ) BULUG=( OVER_BULUG ) DA=( TIMES_TAK4 ) DAG=( TIMES_KUR KISIM5_TIMES( AMAR A_PLUS_MASH
    BALAG BI GI GIR2 GUD HA KAK LA LUM NE PAP_PLUS_PAP SI TAK4 USH GA=( PLUS_MASH ) IR=( PLUS_LU )
    LU=( PLUS_MASH2 ) U2_PLUS( GIR2 MASH ) ) ) DIM=( TIMES( IGI SHE U_U_U ) ) DIM2=( TIMES_UD )
    DIN=( KASKAL_U_GUNU_DISH ) DISH=( PLUS_SHU ) DU=( GUNU OVER_DU SHESHIG ) DUB=( TIMES( ESH2 SHE
    ) ) DUG=( TIMES( ANSHE DIN DUN ERIN2 GA GI GISH HA HI KASKAL KUR LAK-020 LUH_PLUS_GISH MASH
    MES MI NI PI SHE ASH=( AT_LEFT ) IGI/SI/GIR2( GUNU ) KUSHU2=( PLUS_KASKAL ) LAM=( TIMES_KUR )
    ) ) DUN3=( GUNU=( GUNU ) ) E=( OVER_E_NUN_OVER_NUN TIMES_PAP ) E2=( TIMES( A_PLUS_HA_PLUS_DA
    GAR KUR MI PAP SAL SHE U ) ) EN=( SQUARED CROSSING/OPPOSING( EN ) TIMES( ME GAN2=( TENU ) ) )
    ERIN2=( X ) ESH2=( CROSSING_ESH2 ) EZEN=( SHESHIG_TIMES( ASH HI IGI_GUNU LA LAL ME MES SU )
    TIMES( AN BAD GUD IGI_GUNU KU3 LA LAL_TIMES_LAL LI LU SHE SU U2 UD A=( PLUS_LAL=( TIMES_LAL )
    ) DUN3_GUNU=( GUNU ) HA=( GUNU ) KASKAL=( SQUARED ) ) ) GA/KUL/MUG/TE/UN/GIR2=( GUNU ) GA2=(
    OVER_GA2 TIMES( AB2_TENU_PLUS_TAB ASH BAD BAHAR2 BAR_PLUS_RA DA DI DUB EREN GA GAN2_TENU GI
    GIR2_PLUS_SU HI_PLUS_LI HUB2 IGI_GUNU ISH_PLUS_HU_PLUS_ASH KAK KASKAL KU3_PLUS_AN
    KUSHU2_PLUS_KASKAL LA LUH ME_PLUS_EN MI MUSH PA SAL SAR SHID SHIM SUM TAK4 U ZIZ2 AN=(
    PLUS_KAK_PLUS_A ) ASH2=( PLUS_GAL ) A_PLUS( DA_PLUS_HA HA IGI ) BUR=( PLUS_RA ) DIM( GUNU
    TIMES_SHE ) DUG_TIMES( IGI_GUNU KASKAL ) EL/HAL=( PLUS_LA ) EN=( TIMES_GAN2_TENU ) GAR=( PLUS(
    DI NE ) ) GI4=( PLUS_A ) HA_PLUS( A LU_PLUS_ESH2 ) KID=( PLUS_LAL ) LAM=( TIMES_KUR ) NE=(
    PLUS( E2 GI ) ) NUN=( OVER_NUN ) SHE=( PLUS_TUR ) UD=( PLUS_DU ) ) ) GABA=( CROSSING_GABA
    ROTATED_NINETY_DEGREES ) GAD=( OVER_GAD_GAR_OVER_GAR ) GAL=( GAD_OVER_GAD_GAR_OVER_GAR )
    GAN2=( TENU CROSSING/OVER( GAN2 ) ) GESHTIN=( TIMES( KUR U ) ) GI=( CROSSING_GI TIMES( E U ) )
    GI4=( CROSSING/OVER( GI4 ) ) GIR3=( TIMES( GAN2_TENU IGI PA A/LU( PLUS_IGI ) ) ) GISH=(
    CROSSING_GISH TENU TIMES( BAD GISH_CROSSING_GISH TAK4 ) ) GU=( CROSSING_GU ) GU2=( GUNU TIMES(
    IGI_GUNU NUN SAL_PLUS_TUG2 KAK=( TIMES_IGI_GUNU ) ) ) GUD=( OVER_GUD_LUGAL
    PLUS_GISH_TIMES_TAK4 TIMES( A_PLUS_KUR KUR ) ) GUM=( TIMES_SHE ) HA=( GUNU TENU=( GUNU ) )
    HI=( TIMES( ASH2 BAD DISH GAD KIN NUN SHE U ASH=( OVER_HI_TIMES_ASH ) ) ) HUB2=( TIMES( AN HAL
    KASKAL LISH UD ) ) I=( A ) IDIM=( OVER_IDIM( BUR SQUARED ) ) IGI=( DIB GUNU
    OVER_IGI_SHIR_OVER_SHIR_UD_OVER_UD RI ) IL=( TIMES_GAN2_TENU ) IM=( SQUARED TIMES_TAK4
    CROSSING/OPPOSING( IM ) ) KA=( TIMES( A ANSHE ASH2 ASH3 BAD BALAG BAR BI BU ERIN2 ESH2 GA GAL
    GAN2_TENU GI GIR2 GU GUD GUR7 HI_TIMES_ASH2 IGI IM KA KAK KI KID LI LU LUM NE NUN PA PI RU SA
    SAR SHA SHE SHID SHU SHUL SIG SUHUR TAR TU U2 UD UMUM_TIMES_PA UR UR2 USH ZI AD=( PLUS_KU3 )
    GAR=( PLUS_SHA3_PLUS_A ) GISH=( CROSSING_GISH PLUS_SAR ) ME=( PLUS( DU GI TE ) ) MI=(
    PLUS_NUNUZ ) U=( U_U ) ) ) KA2=( CROSSING_KA2 ) KAD5=( OVER_KAD5 ) KAK=( TIMES_IGI_GUNU )
    KAL=( CROSSING_KAL TIMES_BAD ) KASKAL=( LAGAB_TIMES_U_OVER_LAGAB_TIMES_U
    OVER_KASKAL_LAGAB_TIMES_U_OVER_LAGAB_TIMES_U ) KI=( TIMES( BAD U UD ) ) KISIM5=( OVER_KISIM5 )
    KU=( OVER_HI_TIMES_ASH2_KU_OVER_HI_TIMES_ASH2 ) KU4=( VARIANT_FORM ) KUR=( OPPOSING_KUR )
    LAGAB=( SQUARED TIMES( AL AN ASH_ZIDA_TENU BAD BI DAR EN GA GAR GI HA HAL HI_TIMES_NUN
    IGI_GUNU KI KIN KU3 LAGAB LISH LU LUL MUSH NE SHE_PLUS_SUM SUM TAG TAK4
    TE_PLUS_A_PLUS_SU_PLUS_NA U2_PLUS_ASH UD USH ZU_OVER_ZU A=( PLUS( DA_PLUS_HA GAR LAL ) ) GUD=(
    PLUS_GUD ) IM=( PLUS( HA LU ) ) KUL=( PLUS_HI_PLUS_A ) ME=( PLUS_EN ) SHITA_PLUS_GISH(
    PLUS_ERIN2 TENU ) SHU2=( PLUS_SHU2 ) U=( PLUS( A U_PLUS_U ) ) ) ) LAGAR=( GUNU=(
    OVER_LAGAR_GUNU_SHE ) TIMES_SHE=( PLUS_SUM ) ) LAK-449=( TIMES( GU IGI U2_PLUS_BA PAP_PLUS(
    LU3 PAP_PLUS_LU3 ) ) ) LAK-617=( TIMES( ASH BAD DUN3_GUNU_GUNU KU3 LA TAR TE U2 UD URUDA ) )
    LAK-648=( TIMES( DUB GA NI PAP_PLUS_PAP_PLUS_LU3 SHESH_PLUS_KI UD URUDA IGI=( GUNU ) ) ) LAL=(
    TIMES_LAL ) LAM=( TIMES_KUR=( PLUS_RU ) ) LU=( TIMES_BAD ) LU2=( GUNU_TIMES_ASH SQUARED TENU
    CROSSING/OPPOSING( LU2 ) SHESHIG=( TIMES_BAD ) TIMES( AL BAD DISH GAN2_TENU HAL HI_TIMES_BAD
    IM KAD2 KI LAGAB ME_PLUS_EN NE NU SHU SIK2_PLUS_BU TAK4 TUG2 ESH2=( PLUS_LAL TENU ) KAD3=(
    PLUS_ASH ) LA/SI( PLUS_ASH ) PAP=( PLUS_PAP_PLUS_LU3 ) ) ) LUGAL=( SHESHIG OPPOSING/OVER(
    LUGAL ) ) LUM=( OVER_LUM=( GAR_OVER_GAR ) ) MA/SI=( GUNU TIMES_TAK4 ) MI=( PLUS_ZA7 ) MU=(
    OVER_MU ) MUSH=( CROSSING_MUSH OVER_MUSH=( TIMES( A_PLUS_NA GA KAK ) ) TIMES( A KUR ZA ) )
    MUSH3=( GUNU TIMES( DI ZA A=( PLUS_DI ) ) ) NAGA=( INVERTED OPPOSING_NAGA TIMES_SHU_TENU )
    NAM=( NUTILLU ) NE=( SHESHIG TIMES( A UD ) ) NI=( TIMES_E ) NIM=( TIMES( GAN2_TENU
    GAR_PLUS_GAN2_TENU ) ) NINDA2=( TIMES( AN BAL DIM_GUNU GI GISH GUD GUL HI KESH2 LAK-050 MASH
    ME_PLUS_GAN2_TENU NE NUN PAP_PLUS_PAP U2_PLUS_ASH URUDA USH ASH=( PLUS_ASH ) SHE=( PLUS( A_AN
    ASH=( PLUS_ASH ) ) ) U=( PLUS_U ) ) ) NU11=( OVER_NU11_BUR_OVER_BUR ROTATED_NINETY_DEGREES
    TENU ) NUN=( OVER_NUN TENU CROSSING_NUN=( LAGAR_OVER_LAGAR ) LAGAR_TIMES( GAR MASH USH SAL=(
    OVER_NUN_LAGAR_TIMES_SAL ) ) ) NUNUZ=( AB2_TIMES( ASHGAB BI DUG GUD IGI_GUNU KAD3 LA NE SILA3
    U2 ) KISIM5_TIMES_BI=( U ) ) PESH2=( ASTERISK ) PI=( CROSSING_PI TIMES( A AB BI BU E I IB U U2
    ) ) PIRIG=( OPPOSING_PIRIG TIMES( KAL UD ZA ) ) SAG=( NUTILLU OVER_SAG GUNU=( TIMES_HA )
    TIMES( A DU DUB EN HA IGI_GUNU KAK KUR LUM MI NUN SAL SHE_AT_LEFT SHID TAB TAK4 U2 UB UM UR
    USH ) ) SAL=( LAGAB_TIMES_ASH2 ) SHA3=( TIMES( A BAD GISH NE SHU2 TUR U=( PLUS_A ) ) ) SHE=(
    HU OVER_SHE=( GAD_OVER_GAD_GAR_OVER_GAR TAB_OVER_TAB_GAR_OVER_GAR ) PLUS( HUB2 NAM2 SAR ) )
    SHID=( TIMES( A IM ) ) SHIM=( TIMES( A BAL BULUG DIN GAR KUSHU2 LUL MUG SAL IGI=( GUNU ) ) )
    SHIR=( OVER_SHIR_BUR_OVER_BUR TENU ) SHU=( OVER_INVERTED_SHU ) SHU2=( PLUS( DUG_TIMES_NI
    E2_TIMES_AN ) ) SIG4=( OVER_SIG4_SHU2 ) SU=( OVER_SU ) TA=( ASTERISK GUNU TIMES( HI MI ) )
    TAB=( OVER_TAB_NI_OVER_NI_DISH_OVER_DISH SQUARED ) TAG=( TIMES( BI GUD SHE SHU TUG2 UD ) )
    TAK4=( PLUS_SAG ) TI/SHA6=( TENU ) TIR=( TIMES_TAK4 OVER_TIR=( GAD_OVER_GAD_GAR_OVER_GAR ) )
    TUM=( TIMES( GAN2_TENU THREE_DISH ) ) TUR=( OVER_TUR_ZA_OVER_ZA ) U=( GUD OVER_U(
    PA_OVER_PA_GAR_OVER_GAR SUR_OVER_SUR U_REVERSED_OVER_U_REVERSED ) U=( U ) ) UD=( GUNU KUSHU2
    SHESHIG=( TIMES_BAD ) TIMES( BAD MI U_PLUS_U_PLUS_U=( GUNU ) ) ) UM=( TIMES( LAGAB SHA3 U ME=(
    PLUS_DA ) ) ) UMUM=( TIMES( KASKAL PA ) ) UR=( CROSSING_UR SHESHIG ) UR2=( INVERTED TIMES( AL
    HA NUN UD A_PLUS( HA NA ) U2=( PLUS( ASH BI ) ) ) ) URU=( TIMES( A ASHGAB BAR DARA3 DUN GA GAL
    GAN2_TENU GAR GU HA IGI IM ISH KI LAK-668 LU3 LUM MIN PA SHE SIG4 TU UD URUDA U_PLUS_GUD ) )
    URUDA=( TIMES_U ) USH=( TIMES( A KU KUR TAK4 ) ) UZ3=( TIMES_KASKAL ) ZA=( SQUARED_TIMES_KUR
    TENU ) ZI=( OVER_ZI ) ZIB=( KABA_TENU ) ZU=( OVER_ZU_PLUS_SAR ) ZU5=( TIMES( A THREE_DISH_TENU
    ) ) ) ) CUP( ON_BLACK_SQUARE WITH_STRAW ) CURLY( BRACKET_EXTENSION LOOP LOGICAL( AND OR ) )
    CURRENCY( EXCHANGE SIGN ) CYPRIOT_SYLLABLE( A E I JA JO KA KE KI KO KU LA LE LI LO LU MA ME MI
    MO MU NA NE NI NO NU O PA PE PI PO PU RA RE RI RO RU SA SE SI SO SU TA TE TI TO TU U WA WE WI
    WO XA XE ZA ZO ) CYPRO-MINOAN_SIGN( CM001 CM002 CM004:013 CM012B CM015 CM017 CM019 CM021
    CM023:030 CM033:041 CM044 CM046 CM047 CM049:056 CM058:064 CM066:076 CM075B CM078:092 CM094:099
    CM100:105 CM107:110 CM112 CM114 CM301 CM302 ) CYRILLIC( KAVYKA PAYEROK THOUSANDS_SIGN CAPITAL(
    LETTER( BE BYELORUSSIAN-UKRAINIAN_I CCHE CLOSED_LITTLE_YUS DCHE DE DJE DJERV DWE DZE DZELO
    DZHE DZWE DZZE DZZHE EF FITA GJE HWE IO IOTA JE KHAKASSIAN_CHE KJE KOPPA KSI LHA LJE
    MONOGRAPH_UK NEUTRAL_YER NJE OT PSI QA RHA SHA SHCHA SHWE TCHE TSE TSHE TSSE TSWE TWE UK
    UKRAINIAN_IE VE WE YA YAE YAT YI YN YU ZEMLYA ZHWE A=( WITH( BREVE DIAERESIS ) ) ABKHASIAN(
    DZE HA CHE=( WITH_DESCENDER ) ) ALEUT/BASHKIR( KA ) BARRED_O=( WITH_DIAERESIS )
    BIG/BLENDED/LITTLE( YUS ) BINOCULAR/CROSSED/MONOCULAR( O ) BROAD/ROUND( OMEGA ) CHE=( WITH(
    DESCENDER DIAERESIS VERTICAL_STROKE ) ) DOUBLE( MONOCULAR_O O ) E/O/SCHWA=( WITH_DIAERESIS )
    EL=( WITH( DESCENDER HOOK MIDDLE_HOOK TAIL ) ) EM=( WITH_TAIL ) EN=( WITH( DESCENDER HOOK TAIL
    LEFT/MIDDLE( HOOK ) ) ) ER=( WITH_TICK ) ES/SHHA=( WITH_DESCENDER ) GHE=( WITH( DESCENDER
    MIDDLE_HOOK UPTURN STROKE=( AND_HOOK ) ) ) HA=( WITH( DESCENDER HOOK STROKE ) ) HARD/SEMISOFT(
    SIGN ) I=( WITH( DIAERESIS GRAVE MACRON ) ) IE=( WITH( BREVE GRAVE ) ) IOTIFIED( A
    CLOSED_LITTLE_YUS E YAT BIG/LITTLE( YUS ) ) IZHITSA=( WITH_DOUBLE_GRAVE_ACCENT ) KA=( WITH(
    DESCENDER HOOK STROKE VERTICAL_STROKE ) ) KOMI( DE DJE DZJE LJE NJE SJE TJE ZJE ) OMEGA=(
    WITH_TITLO ) PE/TE=( WITH( DESCENDER MIDDLE_HOOK ) ) REVERSED( DZE TSE YU ZE ) SHORT( U I=(
    WITH_TAIL ) ) SOFT( DE EL EM SIGN ) STRAIGHT_U=( WITH_STROKE ) U=( WITH( DIAERESIS
    DOUBLE_ACUTE MACRON ) ) YERU=( WITH( BACK_YER DIAERESIS ) ) ZE=( WITH( DESCENDER DIAERESIS ) )
    ZHE=( WITH( BREVE DESCENDER DIAERESIS ) ) ) LIGATURE( A_IE EN_GHE TE_TSE ) ) LETTER(
    MULTIOCULAR_O PALOCHKA SMALL_CAPITAL_EL ) SMALL( LETTER( BE BYELORUSSIAN-UKRAINIAN_I CCHE
    CLOSED_LITTLE_YUS DCHE DE DJE DJERV DWE DZE DZELO DZHE DZWE DZZE DZZHE EF FITA GJE HWE IO IOTA
    JE KHAKASSIAN_CHE KJE KOPPA KSI LHA LJE LONG-LEGGED_DE NEUTRAL_YER NJE OT PALOCHKA PSI QA RHA
    ROUNDED_VE SHA SHCHA SHWE TCHE THREE-LEGGED_TE TSE TSHE TSSE TSWE TWE UK UKRAINIAN_IE VE WE
    WIDE_ES YA YAE YAT YI YN YU ZEMLYA ZHWE A=( WITH( BREVE DIAERESIS ) ) ABKHASIAN( DZE HA CHE=(
    WITH_DESCENDER ) ) ALEUT/BASHKIR( KA ) BARRED_O=( WITH_DIAERESIS ) BIG/BLENDED/LITTLE( YUS )
    BINOCULAR/CROSSED/MONOCULAR/NARROW( O ) BROAD/ROUND( OMEGA ) CHE=( WITH( DESCENDER DIAERESIS
    VERTICAL_STROKE ) ) DOUBLE( MONOCULAR_O O ) E/O/SCHWA=( WITH_DIAERESIS ) EL=( WITH( DESCENDER
    HOOK MIDDLE_HOOK TAIL ) ) EM=( WITH_TAIL ) EN=( WITH( DESCENDER HOOK TAIL LEFT/MIDDLE( HOOK )
    ) ) ER=( WITH_TICK ) ES/SHHA=( WITH_DESCENDER ) GHE=( WITH( DESCENDER MIDDLE_HOOK UPTURN
    STROKE=( AND_HOOK ) ) ) HA=( WITH( DESCENDER HOOK STROKE ) ) HARD/SEMISOFT( SIGN ) I=( WITH(
    DIAERESIS GRAVE MACRON ) ) IE=( WITH( BREVE GRAVE ) ) IOTIFIED( A CLOSED_LITTLE_YUS E YAT
    BIG/LITTLE( YUS ) ) IZHITSA=( WITH_DOUBLE_GRAVE_ACCENT ) KA=( WITH( DESCENDER HOOK STROKE
    VERTICAL_STROKE ) ) KOMI( DE DJE DZJE LJE NJE SJE TJE ZJE ) MONOGRAPH/UNBLENDED( UK ) OMEGA=(
    WITH_TITLO ) PE/TE=( WITH( DESCENDER MIDDLE_HOOK ) ) REVERSED( DZE TSE YU ZE ) SHORT( U I=(
    WITH_TAIL ) ) SOFT( DE EL EM SIGN ) STRAIGHT_U=( WITH_STROKE ) TALL( HARD_SIGN TE YAT ) U=(
    WITH( DIAERESIS DOUBLE_ACUTE MACRON ) ) YERU=( WITH( BACK_YER DIAERESIS ) ) ZE=( WITH(
    DESCENDER DIAERESIS ) ) ZHE=( WITH( BREVE DESCENDER DIAERESIS ) ) ) LIGATURE( A_IE EN_GHE
    TE_TSE ) ) )"),
  ('D', "DANCER DANGO DATA_LINK_ESCAPE DC1:4 DCS DEAF_PERSON DECIDUOUS_TREE DECREASE_FONT_SIZE_SYMBOL
    DEER DEL DELETE DELIVERY_TRUCK DELTA_EQUAL_TO DEPARTMENT_STORE DERELICT_HOUSE_BUILDING
    DESCENDING_NODE DIAERESIS DIESEL_LOCOMOTIVE DIFFERENCE_BETWEEN DIMENSION_ORIGIN DISABLED_CAR
    DISCONTINUOUS_UNDERLINE_SYMBOL DITTO_MARK DIVIDES DIVING_MASK DIYA_LAMP DLE DNA_DOUBLE_HELIX
    DODO DOLPHIN DOOR DOUBLE-ENDED_MULTIMAP DOUGHNUT DOVE_OF_PEACE DO_NOT_LITTER_SYMBOL
    DRAFTING_POINT_RIGHTWARDS_ARROW DRESS DRIVE_SLOW_SIGN DROMEDARY_CAMEL DROPLET DROP_OF_BLOOD
    DRUM_WITH_DRUMSTICKS DUCK DUMPLING DVD DAGGER=( KNIFE WITH( LEFT/RIGHT( GUARD ) ) )
    DALET/DIVORCE( SYMBOL ) DARK( SHADE SUNGLASSES ) DASH( SYMBOL WITH_LEFT_UPTURN ) DASHED(
    LOW_LINE OVERLINE TRIANGLE-HEADED_RIGHTWARDS_ARROW ) DECIMAL( EXPONENT_SYMBOL
    SEPARATOR_KEY_SYMBOL ) DEGREE( CELSIUS FAHRENHEIT SIGN ) DENTISTRY_SYMBOL_LIGHT( DOWN/UP(
    AND_HORIZONTAL=( WITH( CIRCLE TRIANGLE WAVE ) ) ) VERTICAL( AND( WAVE BOTTOM/TOP( LEFT RIGHT )
    ) WITH( CIRCLE TRIANGLE ) ) ) DESERET( CAPITAL/SMALL( LETTER( AY BEE CHEE DEE EF EL EM EN ENG
    ER ES ESH ETH EW GAY H JEE KAY OI OW PEE TEE THEE VEE WU YEE ZEE ZHEE LONG/SHORT( A AH E I O
    OO ) ) ) ) DESERT=( ISLAND ) DESKTOP( COMPUTER WINDOW ) DEVANAGARI( ABBREVIATION_SIGN CARET
    DANDA DOUBLE_DANDA GAP_FILLER HEADSTROKE JAIN_OM OM ACUTE/GRAVE( ACCENT ) DIGIT( EIGHT FIVE
    FOUR NINE ONE SEVEN SIX THREE TWO ZERO ) LETTER( A AA AI AU AW AY BA BBA BHA CA CHA DA DDA
    DDDA DDDHA DDHA DHA E FA GA GGA GHA GHHA GLOTTAL_STOP HA HEAVY_YA I II JA JHA JJA KA KHA KHHA
    LA LLA LLLA MA MARWARI_DDA NA NGA NNA NNNA NYA O OE OOE PA PHA QA RA RHA RRA SA SHA SSA TA THA
    TTA TTHA U UE UU UUE VA YA YYA ZA ZHA CANDRA/SHORT( A E O ) VOCALIC( L LL R RR ) ) SIGN(
    ANUSVARA AVAGRAHA DOUBLE_CANDRABINDU_VIRAMA HIGH_SPACING_DOT NUKTA PUSHPIKA SIDDHAM VIRAMA
    VISARGA CANDRABINDU=( AVAGRAHA THREE TWO VIRAMA ) INVERTED/SPACING( CANDRABINDU ) )
    STRESS_SIGN( ANUDATTA UDATTA ) VOWEL_SIGN( AA AI AU AW AY E I II O OE OOE PRISHTHAMATRA_E U UE
    UU UUE CANDRA( E LONG_E O ) SHORT( E O ) VOCALIC( L LL R RR ) ) ) DEVICE_CONTROL( FOUR ONE
    STRING THREE TWO ) DIAMETER/DOLLAR/DONG/DRACHMA( SIGN ) DIAMOND( OPERATOR
    SHAPE_WITH_A_DOT_INSIDE TARGET WITH( BOTTOM/LEFT/RIGHT/TOP( HALF_BLACK ) ) ) DIE( FACE-1:6 )
    DIGIT( EIGHT/FIVE/FOUR/NINE/ONE/SEVEN/SIX/THREE/TWO/ZERO=( COMMA FULL_STOP ) ) DIGRAM_FOR(
    EARTH EARTHLY( HEAVEN HUMAN ) GREATER/LESSER( YANG YIN ) HEAVENLY/HUMAN( EARTH ) ) DINGBAT(
    CIRCLED_SANS-SERIF( NUMBER_TEN DIGIT( EIGHT FIVE FOUR NINE ONE SEVEN SIX THREE TWO ZERO ) )
    NEGATIVE_CIRCLED( NUMBER_TEN DIGIT( EIGHT FIVE FOUR NINE ONE SEVEN SIX THREE TWO ) SANS-SERIF(
    NUMBER_TEN DIGIT( EIGHT FIVE FOUR NINE ONE SEVEN SIX THREE TWO ZERO ) ) ) ) DIRECT(
    CURRENT_SYMBOL_FORM_TWO HIT ) DISAPPOINTED( BUT_RELIEVED_FACE FACE ) DISGUISED/DROOLING( FACE
    ) DIVES_AKURU( DOUBLE_DANDA END_OF_TEXT_MARK GAP_FILLER INITIAL_RA PREFIXED_NASAL_SIGN VIRAMA
    DIGIT( EIGHT FIVE FOUR NINE ONE SEVEN SIX THREE TWO ZERO ) LETTER( A AA BA BHA CA CHA DA DDA
    DDHA DHA E GA GHA HA I II JA KA KHA LA LLA MA NA NGA NNA NYA O PA PHA RA SA SHA SSA TA THA TTA
    U UU VA YA YYA ZA ) MEDIAL( RA YA ) SIGN( ANUSVARA CANDRABINDU HALANTA NUKTA ) VOWEL_SIGN( AA
    AI E I II O U UU ) ) DIVISION( SIGN SLASH TIMES ) DIZZY( FACE SYMBOL ) DOCUMENT=( WITH(
    PICTURE TEXT=( AND_PICTURE ) ) ) DOES_NOT( FORCE PROVE CONTAIN_AS( MEMBER NORMAL_SUBGROUP=(
    OR_EQUAL ) ) DIVIDE=( WITH_REVERSED_NEGATION_SLASH ) PRECEDE/SUCCEED=( OR_EQUAL ) )
    DOG/DRAGON=( FACE ) DOGRA( ABBREVIATION_SIGN LETTER( A AA AI AU BA BHA CA CHA DA DDA DDHA DHA
    E GA GHA HA I II JA JHA KA KHA LA MA NA NGA NNA NYA O PA PHA RA RRA SA SHA SSA TA THA TTA TTHA
    U UU VA YA ) SIGN( ANUSVARA NUKTA VIRAMA VISARGA ) VOWEL_SIGN( AA AI AU E I II O U UU VOCALIC(
    R RR ) ) ) DOMINO_TILE( HORIZONTAL-00-00:06 HORIZONTAL-01-00:06 HORIZONTAL-02-00:06
    HORIZONTAL-03-00:06 HORIZONTAL-04-00:06 HORIZONTAL-05-00:06 HORIZONTAL-06-00:06
    VERTICAL-00-00:06 VERTICAL-01-00:06 VERTICAL-02-00:06 VERTICAL-03-00:06 VERTICAL-04-00:06
    VERTICAL-05-00:06 VERTICAL-06-00:06 HORIZONTAL/VERTICAL( BACK ) ) DOT( ABOVE MINUS OPERATOR
    PLUS ) DOTTED( CIRCLE CROSS FENCE LINE_FACE OBELOS RIGHT-POINTING_ANGLE SOLIDUS SQUARE
    TRANSPOSITION_MARKER ) DOUBLE( ACUTE_ACCENT COLON_EQUAL CURLY_LOOP DAGGER HYPHEN INTEGRAL
    INTERSECTION LEFT_ARC_GREATER-THAN_BRACKET LOW_LINE OBLIQUE_HYPHEN PLUS PRECEDES
    RIGHT_ARC_LESS-THAN_BRACKET SOLIDUS_OPERATOR STACKED_COMMA STROKE_NOT_SIGN SUBSET SUCCEEDS
    SUPERSET UNION WAVY_OVERLINE CIRCLED( NUMBER_TEN DIGIT( EIGHT FIVE FOUR NINE ONE SEVEN SIX
    THREE TWO ) ) DOWN/UP( TACK ) EXCLAMATION/QUESTION/SUSPENSION( MARK )
    HIGH-REVERSED-9/LOW-9/LOW-REVERSED-9( QUOTATION_MARK ) LOGICAL( AND OR ) NESTED( GREATER-THAN
    LESS-THAN=( WITH_UNDERBAR ) ) PRIME=( QUOTATION_MARK ) SQUARE( INTERSECTION UNION ) VERTICAL(
    LINE BAR=( LEFT_TURNSTILE DOUBLE( LEFT/RIGHT( TURNSTILE ) ) ) ) ) DOUBLE-LINE( EQUAL_TO_OR(
    GREATER-THAN LESS-THAN ) SLANTED( EQUAL_TO_OR( GREATER-THAN LESS-THAN )
    GREATER-THAN/LESS-THAN( OR_EQUAL_TO ) ) ) DOUBLE-STRUCK( N-ARY_SUMMATION CAPITAL( C GAMMA H N
    P PI Q R Z ) ITALIC( CAPITAL_D SMALL( D E I J ) ) SMALL( GAMMA PI ) ) DOUBLED( SYMBOL
    FEMALE/MALE( SIGN ) ) DOWN( ARROWHEAD FISH_TAIL RIGHT_DIAGONAL_ELLIPSIS TACK=(
    WITH_CIRCLE_BELOW ) ) DOWN-POINTING( RED_TRIANGLE SMALL_RED_TRIANGLE TRIANGLE_WITH(
    LEFT/RIGHT( HALF_BLACK ) ) ) DOWNWARDS( ANCORA PAIRED_ARROWS ROCKET TRIANGLE_ARROWHEAD
    TWO-HEADED_ARROW_WITH_TRIANGLE_ARROWHEADS TWO_HEADED_ARROW ARROW=( AND_RIGHT_ONE_EIGHTH_BLOCK
    LEFTWARDS_OF_UPWARDS_ARROW FROM/TO( BAR ) WITH( CORNER_LEFTWARDS EQUILATERAL_ARROWHEAD
    NOTCHED_TAIL DOUBLE/HORIZONTAL( STROKE ) LARGE/MEDIUM( TRIANGLE_ARROWHEAD ) SMALL(
    EQUILATERAL/TRIANGLE( ARROWHEAD ) ) TIP( LEFTWARDS RIGHTWARDS ) ) ) BLACK( ARROW
    CIRCLED_WHITE_ARROW )
    COMPRESSED/DASHED/DOUBLE/FINGER-POST/QUADRUPLE/SANS-SERIF/SQUARED/TRIPLE/ZIGZAG( ARROW )
    HARPOON_WITH_BARB( LEFTWARDS RIGHTWARDS LEFT( BESIDE( DOWNWARDS/UPWARDS(
    HARPOON_WITH_BARB_RIGHT ) ) FROM/TO( BAR ) ) RIGHT( FROM/TO( BAR ) ) ) HEAVY( ARROW
    COMPRESSED_ARROW ) TRIANGLE-HEADED( PAIRED_ARROWS ARROW=(
    LEFTWARDS_OF_UPWARDS_TRIANGLE-HEADED_ARROW TO_BAR WITH( DOUBLE_HORIZONTAL_STROKE
    VERY_HEAVY_SHAFT BOLD/HEAVY/MEDIUM/NARROW( SHAFT ) LONG_TIP( LEFTWARDS RIGHTWARDS ) ) )
    DASHED/ZIGZAG( ARROW ) ) WHITE_ARROW=( WITHIN_TRIANGLE_ARROWHEAD ) ) DOWNWARD_FACING( HOOK=(
    WITH_DOT ) NOTCHED_HOOK=( WITH_DOT ) ) DUPLOYAN( DOUBLE_MARK PUNCTUATION_CHINOOK_FULL_STOP
    SIGN_O_WITH_CROSS THICK_LETTER_SELECTOR AFFIX( ATTACHED( LEFT-TO-RIGHT_SECANT SECANT TAIL E/I(
    HOOK ) TANGENT=( HOOK ) ) HIGH( ACUTE CIRCLE DOT GRAVE LINE LONG_GRAVE TIGHT_ACUTE WAVE
    VERTICAL=( SECANT ) ) LEFT/RIGHT( HORIZONTAL_SECANT ) LOW( ACUTE ARROW CIRCLE DOT GRAVE LINE
    LONG_GRAVE TIGHT_ACUTE WAVE VERTICAL=( SECANT ) ) MID( HORIZONTAL/VERTICAL( SECANT ) ) )
    LETTER( A AOU B DH E EE EU H HL I IE KK L LH O OA OOH OU OW RH SHORT_I TH UH UI V VOCALIC_M WA
    WEI WH WI WO WOW X XW YE D/R=( S ) F/P/U=( N ) G=( R_S ) J=( M/N=( S ) S=( WITH_DOT ) WITH(
    DOT DOTS_INSIDE_AND_ABOVE ) ) K=( M R_S ) LONG/ROMANIAN( I U ) M=( S WITH_DOT N=( S ) ) N=( S
    WITH_DOT M=( S ) ) NASAL( A I O U ) PERNIN( AM AN ) S=( M N S J=( S ) K/P/T=( R ) WITH_DOT=(
    BELOW ) ) SLOAN( AN DH EE EH EN J ON OW U ) T=( R_S S ) W=( R ) ) )"),
  ('E', "EAGLE EAST_SYRIAC_CROSS EDITORIAL_CORONIS EGG EIGHTH_NOTE ELECTRICAL_INTERSECTION ELEPHANT
    ELEVATOR ELF ENQ ENQUIRY EOL EOM EOT EPA EQUIANGULAR_TO ESA ESC ESCAPE ESTIMATES ETB ETX
    EULER_CONSTANT EVERGREEN_TREE EXCESS EXPRESSIONLESS_FACE EXTRATERRESTRIAL_ALIEN EYE EYEGLASSES
    EYES E-MAIL/EJECT/EMPHASIS/ENTER/ESTIMATED( SYMBOL ) EAR=( WITH_HEARING_AID OF( MAIZE RICE ) )
    EARTH=( GROUND GLOBE( AMERICAS ASIA-AUSTRALIA EUROPE-AFRICA ) ) EGYPTIAN_HIEROGLYPH( A001:070
    A005A A006A A006B A014A A017A A032A A040A A042A A043A A045A AA001:032 AA007A AA007B B001:009
    B005A C001:024 C002A C002B C002C C010A D001:067 D008A D027A D031A D034A D046A D048A D050A
    D050B D050C D050D D050E D050F D050G D050H D050I D052A D054A D067A D067B D067C D067D D067E
    D067F D067G D067H E001:034 E008A E009A E016A E017A E020A E028A E034A E036:038 F001:053 F001A
    F013A F021A F031A F037A F038A F045A F046A F047A F051A F051B F051C G001:054 G006A G007A G007B
    G011A G020A G026A G036A G037A G043A G045A H001:008 H006A I001:015 I005A I009A I010A I011A
    K001:008 L001:008 L002A L006A M001:044 M001A M001B M003A M010A M012A M012B M012C M012D M012E
    M012F M012G M012H M015A M016A M017A M022A M024A M028A M031A M033A M033B M040A N001:042 N018A
    N018B N025A N033A N034A N035A N037A NL001:020 NL005A NL017A NU001:022 NU010A NU011A NU018A
    NU022A O001:051 O001A O005A O006A O006B O006C O006D O006E O006F O010A O010B O010C O019A O020A
    O024A O025A O029A O030A O033A O036A O036B O036C O036D O050A O050B OVERLAY_MIDDLE P001:011
    P001A P003A Q001:007 R001:029 R002A R003A R003B R010A R016A S001:046 S002A S006A S014A S014B
    S017A S026A S026B S035A T001:036 T003A T007A T008A T009A T011A T016A T032A T033A U001:042
    U006A U006B U023A U029A U032A V001:040 V001A V001B V001C V001D V001E V001F V001G V001H V001I
    V002A V007A V007B V011A V011B V011C V012A V012B V020A V020B V020C V020D V020E V020F V020G
    V020H V020I V020J V020K V020L V023A V028A V029A V030A V031A V033A V037A V040A W001:025 W003A
    W009A W010A W014A W017A W018A W024A X001:008 X004A X004B X006A X008A Y001:008 Y001A Z001:016
    Z002A Z002B Z002C Z002D Z003A Z003B Z004A Z005A Z015A Z015B Z015C Z015D Z015E Z015F Z015G
    Z015H Z015I Z016A Z016B Z016C Z016D Z016E Z016F Z016G Z016H BEGIN/END( SEGMENT )
    HORIZONTAL/VERTICAL( JOINER ) INSERT_AT( BOTTOM/TOP( END START ) ) ) EIGHT(
    PETALLED_OUTLINED_BLACK_FLORETTE SPOKED_ASTERISK TEARDROP-SPOKED_PROPELLER_ASTERISK POINTED(
    RECTILINEAR_BLACK_STAR BLACK/PINWHEEL( STAR ) ) ) ELBASAN_LETTER( A BE CE CHE DE DHE E EI FE
    GE GHAMMA GHE GJE HE I JE KE KHE LE LLE ME NA NDE NE NJE O PE QE RE RRE SE SHE TE THE U VE XE
    Y ZE ZHE ) ELECTRIC( ARROW LIGHT_BULB PLUG TORCH ) ELEMENT_OF=( OPENING( DOWNWARDS UPWARDS )
    WITH( DOT_ABOVE LONG_HORIZONTAL_STROKE OVERBAR TWO_HORIZONTAL_STROKES UNDERBAR
    VERTICAL_BAR_AT_END_OF_HORIZONTAL_STROKE ) ) ELYMAIC( LIGATURE_ZAYIN-YODH LETTER( ALEPH AYIN
    BETH DALETH GIMEL HE HETH KAPH LAMEDH MEM NUN PE QOPH RESH SADHE SAMEKH SHIN TAW TETH WAW YODH
    ZAYIN ) ) EM/EN( DASH QUAD SPACE ) EMOJI( COMPONENT( BALD CURLY/RED/WHITE( HAIR ) )
    MODIFIER_FITZPATRICK( TYPE-1-2 TYPE-3:6 ) ) EMPTY( DOCUMENT NEST PAGE PAGES NOTE=( PAD PAGE )
    SET=( WITH( OVERBAR SMALL_CIRCLE_ABOVE LEFT/RIGHT( ARROW_ABOVE ) ) ) ) END(
    WITH_LEFTWARDS_ARROW_ABOVE OF( LINE MEDIUM PROOF TEXT GUARDED/PROTECTED/SELECTED( AREA )
    TRANSMISSION=( BLOCK ) ) ) ENVELOPE=( WITH( DOWNWARDS_ARROW_ABOVE LIGHTNING ) ) EQUAL(
    AND_PARALLEL_TO TO( BY_DEFINITION OR( GREATER-THAN LESS-THAN PRECEDES SUCCEEDS ) ) ) EQUALS(
    COLON WITH_ASTERISK SIGN=( ABOVE( PLUS_SIGN TILDE_OPERATOR LEFTWARDS/RIGHTWARDS( ARROW ) )
    AND_SLANTED_PARALLEL=( WITH_TILDE_ABOVE ) WITH( BUMPY_ABOVE TWO_DOTS_ABOVE_AND_TWO_DOTS_BELOW
    DOT/INFINITY( BELOW ) ) ) ) EQUIVALENT( TO WITH_FOUR_DOTS_ABOVE ) ERASE_TO_THE( LEFT RIGHT )
    ERIS_FORM( ONE TWO ) ERROR-BARRED( BLACK/WHITE( CIRCLE DIAMOND SQUARE ) ) ETHIOPIC( COLON
    COMMA FULL_STOP PARAGRAPH_SEPARATOR PREFACE_COLON SEMICOLON WORDSPACE COMBINING(
    VOWEL_LENGTH_MARK GEMINATION( AND_VOWEL_LENGTH_MARK MARK ) ) DIGIT( EIGHT FIVE FOUR NINE ONE
    SEVEN SIX THREE TWO ) NUMBER( EIGHTY FIFTY FORTY HUNDRED NINETY SEVENTY SIXTY THIRTY TWENTY
    TEN=( THOUSAND ) ) QUESTION/SECTION( MARK ) SYLLABLE( BA BAA BBA BBAA BBE BBEE BBI BBO BBU BE
    BEE BI BO BOA BU BWA BWE BWEE BWI CA CAA CCA CCAA CCE CCEE CCHA CCHAA CCHE CCHEE CCHHA CCHHAA
    CCHHE CCHHEE CCHHI CCHHO CCHHU CCHI CCHO CCHU CCI CCO CCU CE CEE CHA CHAA CHE CHEE CHI CHO
    CHOA CHU CHWA CI CO COA CU CWA DA DAA DDA DDAA DDE DDEE DDHAA DDHE DDHEE DDHI DDHO DDHU DDI
    DDO DDOA DDU DDWA DE DEE DI DO DOA DU DWA DZAA DZE DZEE DZI DZO DZU FA FAA FE FEE FI FO FU FWA
    FWE FWEE FWI FYA GA GAA GE GEE GGA GGAA GGE GGEE GGI GGO GGU GGWA GGWAA GGWE GGWEE GGWI GI GO
    GOA GU GWA GWAA GWE GWEE GWI GYA GYAA GYE GYEE GYI GYO GYU HA HAA HE HEE HHA HHAA HHE HHEE HHI
    HHO HHU HHWA HHWE HHWEE HHWI HHYA HHYAA HHYE HHYEE HHYI HHYO HHYU HI HO HOA HU JA JAA JE JEE
    JI JO JOA JU JWA KA KAA KE KEE KI KO KOA KU KWA KWAA KWE KWEE KWI KXA KXAA KXE KXEE KXI KXO
    KXU KXWA KXWAA KXWE KXWEE KXWI KYA KYAA KYE KYEE KYI KYO KYU LA LAA LE LEE LI LO LOA LU LWA MA
    MAA ME MEE MI MO MOA MU MWA MWE MWEE MWI MYA NA NAA NE NEE NI NO NOA NU NWA NYA NYAA NYE NYEE
    NYI NYO NYOA NYU NYWA PA PAA PE PEE PHA PHAA PHE PHEE PHI PHO PHOA PHU PHWA PI PO POA PU PWA
    PWE PWEE PWI QA QAA QE QEE QHA QHAA QHE QHEE QHI QHO QHU QHWA QHWAA QHWE QHWEE QHWI QI QO QOA
    QU QWA QWAA QWE QWEE QWI QYA QYAA QYE QYEE QYI QYO QYU RA RAA RE REE RI RO ROA RU RWA RYA SA
    SAA SE SEE SHA SHAA SHE SHEE SHI SHO SHOA SHU SHWA SI SO SOA SSA SSAA SSE SSEE SSI SSO SSU SU
    SWA SZA SZAA SZE SZEE SZI SZO SZU SZWA TA TAA TE TEE THA THAA THE THEE THI THO THOA THU THWA
    TI TO TOA TSA TSAA TSE TSEE TSI TSO TSU TSWA TTHAA TTHE TTHEE TTHI TTHO TTHU TU TWA TZA TZAA
    TZE TZEE TZI TZO TZOA TZU VA VAA VE VEE VI VO VU VWA WA WAA WE WEE WI WO WOA WU XA XAA XE XEE
    XI XO XOA XU XWA XWAA XWE XWEE XWI XYA XYAA XYE XYEE XYI XYO XYU YA YAA YE YEE YI YO YOA YU ZA
    ZAA ZE ZEE ZHA ZHAA ZHE ZHEE ZHI ZHO ZHU ZHWA ZI ZO ZOA ZU ZWA ZZA ZZAA ZZE ZZEE ZZI ZZO ZZU
    GLOTTAL( A AA E EE I O OA U WA ) GURAGE( BWEE BWI FWEE FWI GWE GWEE GWI HHWA KWE KWEE KWI MWEE
    MWI PWEE PWI QWE QWEE QWI ) PHARYNGEAL( A AA E EE I O U ) SEBATBEIT( BWA FWA MWA PWA ) )
    TONAL_MARK( CHIRET DERET DERET-HIDET DIFAT HIDET KENAT KURT RIKRIK SHORT_RIKRIK YIZET ) )
    EURO/EURO-CURRENCY( SIGN ) EUROPEAN( CASTLE POST_OFFICE ) EXCLAMATION( MARK QUESTION_MARK )
    EXTENDED_ARABIC-INDIC_DIGIT( EIGHT FIVE FOUR NINE ONE SEVEN SIX THREE TWO ZERO )
    EXTREMELY_HEAVY( GREEK_CROSS SALTIRE FIVE/SIX( SPOKED_ASTERISK ) WHITE( CIRCLE SQUARE ) )"),
  ('F', "FACTORY FAIRY FALAFEL FALLEN_LEAF FAMILY FARSI_SYMBOL FATHER_CHRISTMAS FEATHER
    FEMININE_ORDINAL_INDICATOR FENCER FERRIS_WHEEL FERRY FF FIELD_HOCKEY_STICK_AND_BALL
    FINITE_PART_INTEGRAL FIRECRACKER FIREWORKS FIREWORK_SPARKLER FISHEYE FISHING_POLE_AND_FISH
    FISTED_HAND_SIGN FLAG_IN_HOLE FLAMINGO FLATBREAD FLATNESS FLAT_SHOE FLEUR-DE-LIS FLEXED_BICEPS
    FLOPPY_DISK FLORAL_HEART FLY FOG FOGGY FOLDER FONDUE FOOT FOOTPRINTS FORCES FORKED_PARAGRAPHOS
    FORKING FORM_FEED FORTUNE_COOKIE FOR_ALL FOUNTAIN FOUR-PER-EM_SPACE FOURTH_ROOT FRIED_SHRIMP
    FRONT-FACING_BABY_CHICK FRONT-TILTED_SHADOWED_WHITE_RIGHTWARDS_ARROW FROWN
    FROWNING_FACE_WITH_OPEN_MOUTH FS FSI FUEL_PUMP FUNCTION_APPLICATION FUNERAL_URN FUSE FVS1:4
    FACE( HOLDING_BACK_TEARS MASSAGE PALM SAVOURING_DELICIOUS_FOOD SCREAMING_IN_FEAR
    THROWING_A_KISS WITHOUT_MOUTH WITH( COLD_SWEAT COWBOY_HAT DIAGONAL_MOUTH
    FINGER_COVERING_CLOSED_LIPS HEAD-BANDAGE LOOK_OF_TRIUMPH MEDICAL_MASK MONOCLE NO_GOOD_GESTURE
    OK_GESTURE ONE_EYEBROW_RAISED PARTY_HORN_AND_PARTY_HAT PEEKING_EYE TEARS_OF_JOY THERMOMETER
    UNEVEN_EYES_AND_WAVY_MOUTH OPEN( EYES_AND_HAND_OVER_MOUTH MOUTH=( AND_COLD_SWEAT VOMITING ) )
    PLEADING/ROLLING( EYES ) STUCK-OUT_TONGUE=( AND( TIGHTLY-CLOSED_EYES WINKING_EYE ) ) ) )
    FACSIMILE/FEMALE( SIGN ) FALLING_DIAGONAL( IN_WHITE_CIRCLE_IN_BLACK_SQUARE CROSSING(
    NORTH_EAST_ARROW RISING_DIAGONAL ) ) FAX( ICON MACHINE ) FEARFUL/FLUSHED/FOX/FREEZING/FROG(
    FACE ) FIGURE( DASH SPACE ) FILE( CABINET FOLDER SEPARATOR ) FILM( FRAMES PROJECTOR ) FIRE=(
    ENGINE EXTINGUISHER ) FIRST( PLACE_MEDAL STRONG_ISOLATE QUARTER_MOON=( SYMBOL WITH_FACE ) )
    FISH=( CAKE_WITH_SWIRL_DESIGN ) FIVE_DOT( MARK PUNCTUATION ) FLOWER=( PLAYING_CARDS
    PUNCTUATION_MARK ) FLYING( DISC ENVELOPE SAUCER ) FORK_AND_KNIFE=( WITH_PLATE ) FOUR(
    CORNER_ARROWS_CIRCLING_ANTICLOCKWISE LEAF_CLOVER POINTED_BLACK_STAR
    BALLOON-SPOKED/CLUB-SPOKED/TEARDROP-SPOKED( ASTERISK ) DOT( MARK PUNCTUATION ) ) FRACTION(
    NUMERATOR_ONE SLASH ) FRAME_WITH( AN_X PICTURE TILES ) FRENCH( FRANC_SIGN FRIES ) FULL( BLOCK
    OUTER_JOIN STOP MOON( SYMBOL WITH_FACE ) ) FULLWIDTH( AMPERSAND APOSTROPHE ASTERISK BROKEN_BAR
    COLON COMMA COMMERCIAL_AT FULL_STOP HYPHEN-MINUS MACRON REVERSE_SOLIDUS SEMICOLON SOLIDUS
    TILDE CENT/DOLLAR/EQUALS/GREATER-THAN/LESS-THAN/NOT/NUMBER/PERCENT/PLUS/POUND/WON/YEN( SIGN )
    CIRCUMFLEX/GRAVE( ACCENT ) DIGIT( EIGHT FIVE FOUR NINE ONE SEVEN SIX THREE TWO ZERO )
    EXCLAMATION/QUESTION/QUOTATION( MARK ) LATIN( CAPITAL/SMALL( LETTER( A B C D E F G H I J K L M
    N O P Q R S T U V W X Y Z ) ) ) LEFT/RIGHT( PARENTHESIS WHITE_PARENTHESIS CURLY/SQUARE(
    BRACKET ) ) LOW/VERTICAL( LINE ) )"),
  ('G', "GAME_DIE GARLIC GEMINI GEM_STONE GENIE GEOMETRIC_PROPORTION GERMAN_PENNY_SIGN GETA_MARK GHOST
    GIRL GLASS_OF_MILK GLEICH_STARK GLOBE_WITH_MERIDIANS GLOVES GLOWING_STAR GOAL_NET GOAT GOGGLES
    GOLFER GORILLA GRADUATION_CAP GRAPES GRAVE_ACCENT GROWING_HEART GS GUARANI_SIGN GUARDSMAN
    GUIDE_DOG GUITAR GEAR=( WITHOUT_HUB WITH_HANDLES ) GEOMETRICALLY( EQUAL/EQUIVALENT( TO ) )
    GEORGIAN( PARAGRAPH_SEPARATOR CAPITAL/SMALL( LETTER( AEN AN BAN CAN CHAR CHIN CIL DON EN GAN
    GHAN HAE HAR HE HIE HOE IN JHAN JIL KAN KHAR LAS MAN NAR ON PAR PHAR QAR RAE SAN SHIN TAN TAR
    UN VIN WE XAN YN ZEN ZHAR ) ) LETTER( AEN AIN AN BAN CAN CHAR CHIN CIL DON ELIFI EN FI GAN
    GHAN HAE HAR HE HIE HOE IN JHAN JIL KAN KHAR LAS MAN NAR ON PAR PHAR QAR RAE SAN SHIN TAN TAR
    TURNED_GAN UN VIN WE XAN YN ZEN ZHAR HARD/LABIAL( SIGN ) ) MTAVRULI_CAPITAL_LETTER( AEN AIN AN
    BAN CAN CHAR CHIN CIL DON ELIFI EN FI GAN GHAN HAE HAR HE HIE HOE IN JHAN JIL KAN KHAR LAS MAN
    NAR ON PAR PHAR QAR RAE SAN SHIN TAN TAR TURNED_GAN UN VIN WE XAN YN ZEN ZHAR HARD/LABIAL(
    SIGN ) ) ) GIMEL/GIRLS( SYMBOL ) GIRAFFE/GRIMACING( FACE ) GLAGOLITIC( CAPITAL/SMALL( LETTER(
    AZU BIG_YUS BUKY CAUDATE_CHRIVI CHRIVI DJERVI DOBRO DZELO FITA FRITU GLAGOLI HERU I
    INITIAL_IZHE IZHE IZHITSA KAKO LATINATE_MYSLITE LJUDIJE MYSLITE NASHI ONU OTU PE POKOJI RITSI
    SHA SHTA SHTAPIC SLOVO SPIDERY_HA TROKUTASTI_A TSI TVRIDO UKU VEDE YATI YERI YERU YESTU YO YU
    ZEMLJA ZHIVETE IOTATED( BIG/SMALL( YUS ) ) SMALL_YUS=( WITH_TAIL ) ) ) ) GOTHIC_LETTER( AHSA
    AIHVUS BAIRKAN DAGS EIS FAIHU GIBA HAGL HWAIR IGGWS IUJA JER KUSMA LAGUS MANNA NAUTHS NINETY
    NINE_HUNDRED OTHAL PAIRTHRA QAIRTHRA RAIDA SAUIL TEIWS THIUTH URUS WINJA ) GRANTHA(
    AU_LENGTH_MARK OM LETTER( A AA AI AU BA BHA CA CHA DA DDA DDHA DHA EE GA GHA HA I II JA JHA KA
    KHA LA LLA MA NA NGA NNA NYA OO PA PHA RA SA SHA SSA TA THA TTA TTHA U UU VA YA VEDIC(
    ANUSVARA DOUBLE_ANUSVARA ) VOCALIC( L LL R RR ) ) SIGN( ANUSVARA AVAGRAHA CANDRABINDU
    COMBINING_ANUSVARA_ABOVE NUKTA PLUTA VIRAMA VISARGA ) VOWEL_SIGN( AA AI AU EE I II OO U UU
    VOCALIC( L LL R RR ) ) ) GREATER-THAN( EQUAL_TO_OR_LESS-THAN OVER_EQUAL_TO SIGN ABOVE(
    DOUBLE-LINE_EQUAL_ABOVE_LESS-THAN LESS-THAN_ABOVE_DOUBLE-LINE_EQUAL RIGHTWARDS_ARROW
    SLANTED_EQUAL_ABOVE_LESS-THAN_ABOVE_SLANTED_EQUAL SIMILAR( ABOVE_LESS-THAN OR_EQUAL ) ) AND(
    NOT_APPROXIMATE SINGLE-LINE_NOT_EQUAL_TO ) BESIDE/OVERLAPPING( LESS-THAN ) BUT_NOT(
    EQUAL/EQUIVALENT( TO ) ) CLOSED_BY_CURVE=( ABOVE_SLANTED_EQUAL ) OR( APPROXIMATE LESS-THAN
    EQUAL/EQUIVALENT( TO ) SLANTED_EQUAL_TO=( WITH_DOT( INSIDE ABOVE=( LEFT ) ) ) ) WITH(
    CIRCLE_INSIDE DOT QUESTION_MARK_ABOVE ) ) GREEK( ANO_TELEIA KORONIS LOWER_NUMERAL_SIGN
    MUSICAL_LEIMMA OXIA PERISPOMENI PROSGEGRAMMENI QUESTION_MARK REVERSED_LUNATE_EPSILON_SYMBOL
    SYMBOL_TAU_RHO TONOS VARIA YPOGEGRAMMENI ACROPHONIC( CYRENAIC_TWO_DRACHMAS DELPHIC_FIVE_MNAS
    HERAEUM_ONE_PLETHRON MESSENIAN_TEN STRATIAN_FIFTY_MNAS ATTIC( FIFTY=( STATERS TALENTS
    THOUSAND=( STATERS ) ) FIVE=( STATERS TALENTS HUNDRED=( STATERS TALENTS ) THOUSAND=( TALENTS )
    ) ONE( DRACHMA HALF QUARTER HUNDRED/THOUSAND( STATERS TALENTS ) ) TEN( MNAS STATERS TALENTS
    THOUSAND_STATERS ) ) CARYSTIAN/NAXIAN( FIVE_HUNDRED ) EPIDAUREAN( FIVE_HUNDRED TWO=( DRACHMAS
    ) ) HERMIONIAN( FIFTY ONE TEN ) THESPIAN( FIFTY TEN THIRTY THREE_HUNDRED TWO FIVE( HUNDRED
    THOUSAND ) ONE=( HUNDRED THOUSAND ) ) TROEZENIAN( FIFTY/TEN=( ALTERNATE_FORM ) FIVE=( HUNDRED
    ) ) ) AROURA/ARTABE/DRACHMA/GRAMMA/INDICTION/LITRA/METRETES/NUMERAL/OBOL/OUNKIA/SINUSOID( SIGN
    ) BETA/KAI/KAPPA/PHI/PI/THETA( SYMBOL ) CAPITAL( DOTTED_LUNATE_SIGMA_SYMBOL
    LUNATE_SIGMA_SYMBOL KAI/THETA( SYMBOL ) LETTER( ARCHAIC_SAMPI BETA CHI DELTA GAMMA HETA KAPPA
    LAMDA MU NU PAMPHYLIAN_DIGAMMA PHI PI PSI SAN SHO SIGMA TAU THETA XI YOT ZETA ALPHA=( WITH(
    MACRON OXIA PROSGEGRAMMENI TONOS VARIA VRACHY DASIA/PSILI=( AND( PROSGEGRAMMENI
    OXIA/PERISPOMENI/VARIA=( AND_PROSGEGRAMMENI ) ) ) ) ) EPSILON/OMICRON=( WITH( OXIA TONOS VARIA
    DASIA/PSILI=( AND( OXIA VARIA ) ) ) ) ETA/OMEGA=( WITH( OXIA PROSGEGRAMMENI TONOS VARIA
    DASIA/PSILI=( AND( PROSGEGRAMMENI OXIA/PERISPOMENI/VARIA=( AND_PROSGEGRAMMENI ) ) ) ) ) IOTA=(
    WITH( DIALYTIKA MACRON OXIA TONOS VARIA VRACHY DASIA/PSILI=( AND( OXIA PERISPOMENI VARIA ) ) )
    ) RHO=( WITH_DASIA ) UPSILON=( WITH( DIALYTIKA MACRON OXIA TONOS VARIA VRACHY DASIA=( AND(
    OXIA PERISPOMENI VARIA ) ) ) ) ) REVERSED( DOTTED_LUNATE_SIGMA_SYMBOL LUNATE_SIGMA_SYMBOL ) )
    DASIA/PSILI=( AND( OXIA PERISPOMENI VARIA ) ) DIALYTIKA( TONOS AND( OXIA PERISPOMENI VARIA ) )
    FIVE/FOUR( OBOLS_SIGN ) INSTRUMENTAL_NOTATION( SYMBOL-1 SYMBOL-11:14 SYMBOL-17:19 SYMBOL-2
    SYMBOL-23:27 SYMBOL-29 SYMBOL-30 SYMBOL-32 SYMBOL-36:40 SYMBOL-4 SYMBOL-42 SYMBOL-43 SYMBOL-45
    SYMBOL-47:54 SYMBOL-5 SYMBOL-7 SYMBOL-8 ) KYATHOS/TRYBLION( BASE_SIGN ) LETTER( ARCHAIC_KOPPA
    DIGAMMA KOPPA SAMPI STIGMA YOT SMALL_CAPITAL( GAMMA LAMDA OMEGA PI PSI RHO ) ) LUNATE(
    EPSILON/SIGMA( SYMBOL ) ) ONE( QUARTER_SIGN HALF_SIGN=( ALTERNATE_FORM ) ) RHO( SYMBOL
    WITH_STROKE_SYMBOL ) SMALL( DOTTED_LUNATE_SIGMA_SYMBOL LETTER( BETA CHI DELTA DIGAMMA
    FINAL_SIGMA GAMMA HETA KAPPA KOPPA LAMDA MU NU PAMPHYLIAN_DIGAMMA PHI PI PSI SAMPI SAN SHO
    SIGMA STIGMA TAU THETA XI ZETA ALPHA=( WITH( MACRON TONOS VRACHY YPOGEGRAMMENI DASIA/PSILI=(
    AND( YPOGEGRAMMENI OXIA/PERISPOMENI/VARIA=( AND_YPOGEGRAMMENI ) ) ) OXIA/PERISPOMENI/VARIA=(
    AND_YPOGEGRAMMENI ) ) ) ARCHAIC( KOPPA SAMPI ) EPSILON/OMICRON=( WITH( OXIA TONOS VARIA
    DASIA/PSILI=( AND( OXIA VARIA ) ) ) ) ETA/OMEGA=( WITH( TONOS YPOGEGRAMMENI DASIA/PSILI=( AND(
    YPOGEGRAMMENI OXIA/PERISPOMENI/VARIA=( AND_YPOGEGRAMMENI ) ) ) OXIA/PERISPOMENI/VARIA=(
    AND_YPOGEGRAMMENI ) ) ) IOTA/UPSILON=( WITH( MACRON OXIA PERISPOMENI TONOS VARIA VRACHY
    DASIA/PSILI=( AND( OXIA PERISPOMENI VARIA ) ) DIALYTIKA=( AND( OXIA PERISPOMENI TONOS VARIA )
    ) ) ) RHO=( WITH( DASIA PSILI ) ) ) REVERSED( DOTTED_LUNATE_SIGMA_SYMBOL LUNATE_SIGMA_SYMBOL )
    ) SUBSCRIPT_SMALL_LETTER( BETA CHI GAMMA PHI RHO ) TALENT/XESTES/YEAR/ZERO( SIGN ) THREE(
    OBOLS/QUARTERS( SIGN ) ) TWO( OBOLS/THIRDS( SIGN ) ) UPSILON_WITH( HOOK_SYMBOL
    ACUTE/DIAERESIS( AND_HOOK_SYMBOL ) ) VOCAL_NOTATION( SYMBOL-10:24 SYMBOL-1:9 SYMBOL-50:54 ) )
    GREEN( APPLE BOOK HEART SALAD ) GRINNING( CAT_FACE_WITH_SMILING_EYES FACE=( WITH(
    ONE_LARGE_AND_ONE_SMALL_EYE SMILING/STAR( EYES ) ) ) ) GROUP( MARK SEPARATOR ) GUJARATI( OM
    ABBREVIATION/RUPEE( SIGN ) DIGIT( EIGHT FIVE FOUR NINE ONE SEVEN SIX THREE TWO ZERO ) LETTER(
    A AA AI AU BA BHA CA CHA DA DDA DDHA DHA E GA GHA HA I II JA JHA KA KHA LA LLA MA NA NGA NNA
    NYA O PA PHA RA SA SHA SSA TA THA TTA TTHA U UU VA YA ZHA VOCALIC( L LL R RR ) ) SIGN(
    ANUSVARA AVAGRAHA CANDRABINDU MADDAH NUKTA SHADDA SUKUN VIRAMA VISARGA
    CIRCLE/THREE-DOT/TWO-CIRCLE( NUKTA_ABOVE ) ) VOWEL( CANDRA( E O ) SIGN( AA AI AU E I II O U UU
    CANDRA( E O ) VOCALIC( L LL R RR ) ) ) ) GUNJALA_GONDI( OM VIRAMA DIGIT( EIGHT FIVE FOUR NINE
    ONE SEVEN SIX THREE TWO ZERO ) LETTER( A AA AI AU BA BHA CA CHA DA DDA DDHA DHA EE GA GHA HA I
    II JA JHA KA KHA LA LLA MA NA NGA OO PA PHA RA SA TA THA TTA TTHA U UU VA YA ) SIGN( ANUSVARA
    VISARGA ) VOWEL_SIGN( AA AI AU EE I II OO U UU ) ) GURMUKHI( ABBREVIATION_SIGN ADDAK EK_ONKAR
    IRI TIPPI URA DIGIT( EIGHT FIVE FOUR NINE ONE SEVEN SIX THREE TWO ZERO ) LETTER( A AA AI AU BA
    BHA CA CHA DA DDA DDHA DHA EE FA GA GHA GHHA HA I II JA JHA KA KHA KHHA LA LLA MA NA NGA NNA
    NYA OO PA PHA RA RRA SA SHA TA THA TTA TTHA U UU VA YA ZA ) SIGN( ADAK_BINDI BINDI NUKTA UDAAT
    VIRAMA VISARGA YAKASH ) VOWEL_SIGN( AA AI AU EE I II OO U UU ) )"),
  ('H', "HADES HAIRCUT HAIR_SPACE HAMBURGER HAMSA HANDBAG HANDBALL HANDSHAKE
    HAPPY_PERSON_RAISING_ONE_HAND HARD_DISK HATCHING_CHICK HEADPHONE HEAR-NO-EVIL_MONKEY HEDGEHOG
    HELICOPTER HELLSCHREIBER_PAUSE_SYMBOL HELMET_WITH_WHITE_CROSS HERB HERMITIAN_CONJUGATE_MATRIX
    HIBISCUS HIGH-HEELED_SHOE HIKING_BOOT HINDU_TEMPLE HIPPOPOTAMUS HISTORIC_SITE HOCHO HOLE
    HOMOTHETIC HONEYBEE HONEY_POT HOOK HOP HOSPITAL HOTEL HRYVNIA_SIGN HT HTJ HTS
    HUNDRED_POINTS_SYMBOL HUT HYGIEA HYPHEN-MINUS HYPHENATION_POINT HYPODIASTOLE HALFWIDTH(
    BLACK_SQUARE FORMS_LIGHT_VERTICAL KATAKANA-HIRAGANA_PROLONGED_SOUND_MARK WHITE_CIRCLE
    DOWNWARDS/LEFTWARDS/RIGHTWARDS/UPWARDS( ARROW ) HANGUL( FILLER LETTER( A AE CHIEUCH CIEUC E EO
    EU HIEUH I IEUNG KHIEUKH KIYEOK KIYEOK-SIOS MIEUM NIEUN NIEUN-CIEUC NIEUN-HIEUH O OE PHIEUPH
    PIEUP PIEUP-SIOS RIEUL RIEUL-HIEUH RIEUL-KIYEOK RIEUL-MIEUM RIEUL-PHIEUPH RIEUL-PIEUP
    RIEUL-SIOS RIEUL-THIEUTH SIOS SSANGCIEUC SSANGKIYEOK SSANGPIEUP SSANGSIOS SSANGTIKEUT THIEUTH
    TIKEUT U WA WAE WE WEO WI YA YAE YE YEO YI YO YU ) ) IDEOGRAPHIC( COMMA FULL_STOP ) KATAKANA(
    MIDDLE_DOT LETTER( A E HA HE HI HO HU I KA KE KI KO KU MA ME MI MO MU N NA NE NI NO NU O RA RE
    RI RO RU SA SE SI SO SU TA TE TI TO TU U WA WO YA YO YU SMALL( A E I O TU U YA YO YU ) )
    SEMI-VOICED/VOICED( SOUND_MARK ) ) LEFT/RIGHT( CORNER_BRACKET ) ) HAMMER=( AND( PICK SICKLE
    WRENCH ) ) HAMSTER/HUGGING/HUSHED( FACE ) HAND_WITH_INDEX( AND_MIDDLE_FINGERS_CROSSED
    FINGER_AND_THUMB_CROSSED ) HANGUL( FILLER CHOSEONG( CEONGCHIEUMCHIEUCH CEONGCHIEUMCIEUC
    CEONGCHIEUMSIOS CEONGCHIEUMSSANGCIEUC CEONGCHIEUMSSANGSIOS CHIEUCH CHIEUCH-HIEUH
    CHIEUCH-KHIEUKH CHITUEUMCHIEUCH CHITUEUMCIEUC CHITUEUMSIOS CHITUEUMSSANGCIEUC
    CHITUEUMSSANGSIOS CIEUC CIEUC-IEUNG FILLER HIEUH HIEUH-SIOS IEUNG IEUNG-CHIEUCH IEUNG-CIEUC
    IEUNG-HIEUH IEUNG-KIYEOK IEUNG-MIEUM IEUNG-PANSIOS IEUNG-PHIEUPH IEUNG-PIEUP IEUNG-RIEUL
    IEUNG-SIOS IEUNG-THIEUTH IEUNG-TIKEUT KAPYEOUNMIEUM KAPYEOUNPHIEUPH KAPYEOUNPIEUP
    KAPYEOUNRIEUL KAPYEOUNSSANGPIEUP KHIEUKH KIYEOK KIYEOK-TIKEUT MIEUM MIEUM-KIYEOK MIEUM-PIEUP
    MIEUM-SIOS MIEUM-TIKEUT NIEUN NIEUN-CIEUC NIEUN-HIEUH NIEUN-KIYEOK NIEUN-PIEUP NIEUN-SIOS
    NIEUN-TIKEUT PANSIOS PHIEUPH PHIEUPH-HIEUH PHIEUPH-PIEUP PIEUP PIEUP-CHIEUCH PIEUP-CIEUC
    PIEUP-HIEUH PIEUP-KHIEUKH PIEUP-KIYEOK PIEUP-NIEUN PIEUP-PHIEUPH PIEUP-SIOS PIEUP-SIOS-CIEUC
    PIEUP-SIOS-KIYEOK PIEUP-SIOS-PIEUP PIEUP-SIOS-THIEUTH PIEUP-SIOS-TIKEUT PIEUP-SSANGSIOS
    PIEUP-THIEUTH PIEUP-TIKEUT RIEUL RIEUL-CIEUC RIEUL-HIEUH RIEUL-KAPYEOUNPIEUP RIEUL-KHIEUKH
    RIEUL-KIYEOK RIEUL-MIEUM RIEUL-NIEUN RIEUL-PIEUP RIEUL-SIOS RIEUL-SSANGKIYEOK RIEUL-SSANGPIEUP
    RIEUL-SSANGTIKEUT RIEUL-TIKEUT SIOS SIOS-CHIEUCH SIOS-CIEUC SIOS-HIEUH SIOS-IEUNG SIOS-KHIEUKH
    SIOS-KIYEOK SIOS-MIEUM SIOS-NIEUN SIOS-PHIEUPH SIOS-PIEUP SIOS-PIEUP-KIYEOK SIOS-RIEUL
    SIOS-SSANGSIOS SIOS-THIEUTH SIOS-TIKEUT SSANGCIEUC SSANGCIEUC-HIEUH SSANGHIEUH SSANGIEUNG
    SSANGKIYEOK SSANGNIEUN SSANGPIEUP SSANGRIEUL SSANGSIOS SSANGSIOS-PIEUP SSANGTHIEUTH
    SSANGTIKEUT SSANGYEORINHIEUH THIEUTH TIKEUT TIKEUT-CIEUC TIKEUT-KIYEOK TIKEUT-MIEUM
    TIKEUT-PIEUP TIKEUT-RIEUL TIKEUT-SIOS YEORINHIEUH YESIEUNG ) DOUBLE/SINGLE( DOT_TONE_MARK )
    JONGSEONG( CHIEUCH CIEUC CIEUC-PIEUP CIEUC-SSANGPIEUP HIEUH HIEUH-MIEUM HIEUH-NIEUN
    HIEUH-PIEUP HIEUH-RIEUL IEUNG IEUNG-KHIEUKH IEUNG-KIYEOK IEUNG-SSANGKIYEOK KAPYEOUNMIEUM
    KAPYEOUNPHIEUPH KAPYEOUNPIEUP KAPYEOUNRIEUL KHIEUKH KIYEOK KIYEOK-CHIEUCH KIYEOK-HIEUH
    KIYEOK-KHIEUKH KIYEOK-NIEUN KIYEOK-PIEUP KIYEOK-RIEUL KIYEOK-SIOS KIYEOK-SIOS-KIYEOK MIEUM
    MIEUM-CHIEUCH MIEUM-CIEUC MIEUM-HIEUH MIEUM-KIYEOK MIEUM-NIEUN MIEUM-PANSIOS MIEUM-PIEUP
    MIEUM-PIEUP-SIOS MIEUM-RIEUL MIEUM-SIOS MIEUM-SSANGNIEUN MIEUM-SSANGSIOS NIEUN NIEUN-CHIEUCH
    NIEUN-CIEUC NIEUN-HIEUH NIEUN-KIYEOK NIEUN-PANSIOS NIEUN-RIEUL NIEUN-SIOS NIEUN-THIEUTH
    NIEUN-TIKEUT PANSIOS PANSIOS-KAPYEOUNPIEUP PANSIOS-PIEUP PHIEUPH PHIEUPH-PIEUP PHIEUPH-SIOS
    PHIEUPH-THIEUTH PIEUP PIEUP-CHIEUCH PIEUP-CIEUC PIEUP-HIEUH PIEUP-MIEUM PIEUP-PHIEUPH
    PIEUP-RIEUL PIEUP-RIEUL-PHIEUPH PIEUP-SIOS PIEUP-SIOS-TIKEUT PIEUP-TIKEUT RIEUL RIEUL-HIEUH
    RIEUL-KAPYEOUNPIEUP RIEUL-KHIEUKH RIEUL-KIYEOK RIEUL-KIYEOK-HIEUH RIEUL-KIYEOK-SIOS
    RIEUL-MIEUM RIEUL-MIEUM-HIEUH RIEUL-MIEUM-KIYEOK RIEUL-MIEUM-SIOS RIEUL-NIEUN RIEUL-PANSIOS
    RIEUL-PHIEUPH RIEUL-PIEUP RIEUL-PIEUP-HIEUH RIEUL-PIEUP-PHIEUPH RIEUL-PIEUP-SIOS
    RIEUL-PIEUP-TIKEUT RIEUL-SIOS RIEUL-SSANGKIYEOK RIEUL-SSANGSIOS RIEUL-THIEUTH RIEUL-TIKEUT
    RIEUL-TIKEUT-HIEUH RIEUL-YEORINHIEUH RIEUL-YEORINHIEUH-HIEUH RIEUL-YESIEUNG SIOS SIOS-CHIEUCH
    SIOS-CIEUC SIOS-HIEUH SIOS-KAPYEOUNPIEUP SIOS-KIYEOK SIOS-MIEUM SIOS-PANSIOS SIOS-PIEUP
    SIOS-RIEUL SIOS-THIEUTH SIOS-TIKEUT SSANGCIEUC SSANGIEUNG SSANGKIYEOK SSANGMIEUM SSANGNIEUN
    SSANGPIEUP SSANGRIEUL SSANGRIEUL-KHIEUKH SSANGSIOS SSANGSIOS-KIYEOK SSANGSIOS-TIKEUT
    SSANGTIKEUT SSANGTIKEUT-PIEUP SSANGYESIEUNG THIEUTH TIKEUT TIKEUT-CHIEUCH TIKEUT-CIEUC
    TIKEUT-KIYEOK TIKEUT-PIEUP TIKEUT-RIEUL TIKEUT-SIOS TIKEUT-SIOS-KIYEOK TIKEUT-THIEUTH
    YEORINHIEUH YESIEUNG YESIEUNG-HIEUH YESIEUNG-KHIEUKH YESIEUNG-KIYEOK YESIEUNG-MIEUM
    YESIEUNG-PANSIOS YESIEUNG-SIOS YESIEUNG-SSANGKIYEOK ) JUNGSEONG( A A-EU A-O A-U AE ARAEA
    ARAEA-A ARAEA-E ARAEA-EO ARAEA-I ARAEA-U E EO EO-EU EO-O EO-U EU EU-A EU-E EU-EO EU-EU EU-O
    EU-U FILLER I I-A I-ARAEA I-EU I-I I-O I-O-I I-U I-YA I-YA-O I-YAE I-YE I-YEO I-YO I-YU O O-E
    O-EO O-O O-O-I O-U O-YA O-YAE O-YE O-YEO OE SSANGARAEA U U-A U-AE U-EO-EU U-I-I U-U U-YE U-YEO
    WA WAE WE WEO WI YA YA-O YA-U YA-YO YAE YE YEO YEO-O YEO-U YEO-YA YI YI-U YO YO-A YO-AE YO-EO
    YO-I YO-O YO-YA YO-YAE YO-YEO YU YU-A YU-AE YU-E YU-EO YU-I YU-O YU-U YU-YE YU-YEO ) LETTER( A
    AE ARAEA ARAEAE CHIEUCH CIEUC E EO EU HIEUH I IEUNG KAPYEOUNMIEUM KAPYEOUNPHIEUPH
    KAPYEOUNPIEUP KAPYEOUNSSANGPIEUP KHIEUKH KIYEOK KIYEOK-SIOS MIEUM MIEUM-PANSIOS MIEUM-PIEUP
    MIEUM-SIOS NIEUN NIEUN-CIEUC NIEUN-HIEUH NIEUN-PANSIOS NIEUN-SIOS NIEUN-TIKEUT O OE PANSIOS
    PHIEUPH PIEUP PIEUP-CIEUC PIEUP-KIYEOK PIEUP-SIOS PIEUP-SIOS-KIYEOK PIEUP-SIOS-TIKEUT
    PIEUP-THIEUTH PIEUP-TIKEUT RIEUL RIEUL-HIEUH RIEUL-KIYEOK RIEUL-KIYEOK-SIOS RIEUL-MIEUM
    RIEUL-PANSIOS RIEUL-PHIEUPH RIEUL-PIEUP RIEUL-PIEUP-SIOS RIEUL-SIOS RIEUL-THIEUTH RIEUL-TIKEUT
    RIEUL-YEORINHIEUH SIOS SIOS-CIEUC SIOS-KIYEOK SIOS-NIEUN SIOS-PIEUP SIOS-TIKEUT SSANGCIEUC
    SSANGHIEUH SSANGIEUNG SSANGKIYEOK SSANGNIEUN SSANGPIEUP SSANGSIOS SSANGTIKEUT THIEUTH TIKEUT U
    WA WAE WE WEO WI YA YAE YE YEO YEORINHIEUH YESIEUNG YESIEUNG-PANSIOS YESIEUNG-SIOS YI YO YO-I
    YO-YA YO-YAE YU YU-I YU-YE YU-YEO ) ) HANGZHOU_NUMERAL( EIGHT FIVE FOUR NINE ONE SEVEN SIX TEN
    THIRTY THREE TWENTY TWO ) HANIFI_ROHINGYA( DIGIT( EIGHT FIVE FOUR NINE ONE SEVEN SIX THREE TWO
    ZERO ) LETTER( A BA CA DA DDA FA GA HA JA KA KHA LA MA NA NGA NYA PA RA RRA SA SHA TA TTA VA
    WA YA ZA KINNA( WA YA ) ) MARK( NA_KHONNA SAKIN ) SIGN( HARBAHAY TAHALA TANA TASSI ) VOWEL( A
    E I O U ) ) HANUNOO( SIGN_PAMUDPOD LETTER( A BA DA GA HA I KA LA MA NA NGA PA RA SA TA U WA YA
    ) VOWEL_SIGN( I U ) ) HATRAN( LETTER( ALEPH AYN BETH DALETH-RESH GIMEL HE HETH KAPH LAMEDH MEM
    NUN PE QOPH SADHE SAMEKH SHIN TAW TETH WAW YODH ZAYN ) NUMBER( FIVE TEN TWENTY ONE=( HUNDRED )
    ) ) HEADSTONE=( GRAVEYARD_SYMBOL ) HEART( DECORATION HANDS WITH( ARROW RIBBON TIP_ON_THE_LEFT
    ) ) HEAVY( ASTERISK CHECK_MARK CHEVRON_SNOWFLAKE CIRCLED_SALTIRE
    CONCAVE-POINTED_BLACK_RIGHTWARDS_ARROW DASHED_TRIANGLE-HEADED_RIGHTWARDS_ARROW
    FOUR_BALLOON-SPOKED_ASTERISK HEART_EXCLAMATION_MARK_ORNAMENT HORIZONTAL_FILL LARGE_CIRCLE
    LIGATURE_OPEN_ET_ORNAMENT OPEN_CENTRE_CROSS OUTLINED_BLACK_STAR OVAL_WITH_OVAL_INSIDE SALTIRE
    SANS-SERIF_INTERROBANG_ORNAMENT SCRIPT_LIGATURE_ET_ORNAMENT SPARKLE VERTICAL_BAR
    AMPERSAND/INTERROBANG( ORNAMENT ) ARROW_SHAFT_WIDTH( TWO_THIRDS ONE=( HALF THIRD ) )
    BALLOT/MULTIPLICATION( X ) BLACK( HEART CURVED( DOWNWARDS/UPWARDS( AND_RIGHTWARDS_ARROW ) ) )
    BLACK-FEATHERED( RIGHTWARDS_ARROW NORTH/SOUTH( EAST_ARROW ) ) CIRCLE=( WITH( CIRCLE_INSIDE
    STROKE_AND_TWO_DOTS_ABOVE ) ) DIVISION/DOLLAR/EQUALS/MINUS/PLUS( SIGN ) DOUBLE/SINGLE(
    COMMA_QUOTATION_MARK_ORNAMENT TURNED_COMMA_QUOTATION_MARK_ORNAMENT )
    DOWNWARDS/LEFTWARDS/UPWARDS( ARROW_WITH( EQUILATERAL_ARROWHEAD LARGE_EQUILATERAL_ARROWHEAD ) )
    EIGHT( SPOKED_ASTERISK TEARDROP-SPOKED_PROPELLER_ASTERISK POINTED( RECTILINEAR_BLACK_STAR
    BLACK/PINWHEEL( STAR ) ) ) EXCLAMATION_MARK( ORNAMENT SYMBOL ) FIVE/SIX( POINTED_BLACK_STAR
    SPOKED_ASTERISK ) GREEK/LATIN( CROSS ) LEFT-POINTING/RIGHT-POINTING( ANGLE( BRACKET_ORNAMENT
    QUOTATION_MARK_ORNAMENT ) ) LOW( DOUBLE/SINGLE( COMMA_QUOTATION_MARK_ORNAMENT ) ) LOWER/UPPER(
    RIGHT-SHADOWED_WHITE_RIGHTWARDS_ARROW ) NORTH/SOUTH( EAST( ARROW POINTING( BUD VINE_LEAF ) )
    WEST_POINTING( BUD VINE_LEAF ) ) RIGHTWARDS_ARROW=( WITH( EQUILATERAL_ARROWHEAD
    LARGE_EQUILATERAL_ARROWHEAD ) )
    ROUND-TIPPED/TEARDROP-SHANKED/TRIANGLE-HEADED/WEDGE-TAILED/WIDE-HEADED( RIGHTWARDS_ARROW )
    TEARDROP-SPOKED( ASTERISK PINWHEEL_ASTERISK ) TWELVE_POINTED( BLACK/PINWHEEL( STAR ) ) WHITE(
    CIRCLE DOWN-POINTING_TRIANGLE SQUARE ) ) HEBREW( YOD_TRIANGLE ACCENT( ATNAH_HAFUKH DARGA DEHI
    ETNAHTA GERSHAYIM ILUY MAHAPAKH MUNAH OLE PASHTA PAZER QADMA QARNEY_PARA REVIA SEGOL
    SHALSHELET TEVIR TIPEHA YERAH_BEN_YOMO YETIV ZARQA ZINOR GERESH=( MUQDAM ) MERKHA=( KEFULA )
    TELISHA( GEDOLA QETANA ) ZAQEF( GADOL QATAN ) ) LETTER( AYIN HET ALEF=( WITH( MAPIQ PATAH
    QAMATS ) ) ALTERNATIVE( AYIN PLUS_SIGN ) BET/KAF/PE=( WITH( DAGESH RAFE ) )
    DALET/GIMEL/LAMED/MEM/NUN/QOF/RESH/SAMEKH/TAV/TET/TSADI/ZAYIN=( WITH_DAGESH ) FINAL( MEM NUN
    TSADI KAF/PE=( WITH_DAGESH ) ) HE=( WITH_MAPIQ ) SHIN=( WITH( DAGESH=( AND( SHIN/SIN( DOT ) )
    ) SHIN/SIN( DOT ) ) ) VAV=( WITH( DAGESH HOLAM ) ) WIDE( ALEF DALET FINAL_MEM HE KAF LAMED
    RESH TAV ) YOD=( WITH( DAGESH HIRIQ ) ) ) LIGATURE( ALEF_LAMED YIDDISH( VAV_YOD YOD_YOD_PATAH
    DOUBLE( VAV YOD ) ) ) MARK( MASORA_CIRCLE LOWER/UPPER( DOT ) ) POINT( DAGESH_OR_MAPIQ HIRIQ
    JUDEO-SPANISH_VARIKA METEG PATAH QUBUTS RAFE SEGOL SHEVA TSERE HATAF( PATAH QAMATS SEGOL )
    HOLAM=( HASER_FOR_VAV ) QAMATS=( QATAN ) SHIN/SIN( DOT ) ) PUNCTUATION( GERESH GERSHAYIM MAQAF
    NUN_HAFUKHA PASEQ SOF_PASUQ ) ) HELM/HYSTERESIS( SYMBOL ) HENTAIGANA_LETTER( A-1:3 A-WO E-1:6
    HA-10 HA-11 HA-1:9 HE-1:7 HI-1:7 HO-1:8 HU-1:3 I-1:4 KA-10 KA-11 KA-1:9 KA-KE KE-1:6 KI-1:8
    KO-1:3 KO-KI KU-1:7 MA-1:7 ME-1 ME-2 ME-MA MI-1:7 MO-1:6 MU-1:4 N-MU-MO-1 N-MU-MO-2 NA-1:9
    NE-1:6 NE-KO NI-1:7 NI-TE NO-1:5 NU-1:3 O-1:3 RA-1:4 RE-1:4 RI-1:7 RO-1:6 RU-1:6 SA-1:8 SE-1:5
    SI-1:6 SO-1:7 SU-1:8 TA-1:4 TE-1:9 TI-1:7 TO-1:6 TO-RA TU-1:4 TU-TO U-1:5 WA-1:5 WE-1:4 WI-1:5
    WO-1:7 YA-1:5 YA-YO YO-1:6 YU-1:4 ) HEXAGRAM_FOR( ABUNDANCE APPROACH BITING_THROUGH
    BREAKTHROUGH COMING_TO_MEET CONFLICT CONTEMPLATION DARKENING_OF_THE_LIGHT DECREASE DELIVERANCE
    DEVELOPMENT DIFFICULTY_AT_THE_BEGINNING DISPERSION DURATION ENTHUSIASM FELLOWSHIP FOLLOWING
    GRACE INCREASE INFLUENCE INNER_TRUTH INNOCENCE LIMITATION MODESTY MOUTH_CORNERS OBSTRUCTION
    OPPOSITION OPPRESSION PEACE PROGRESS PUSHING_UPWARD RETREAT RETURN REVOLUTION SPLITTING_APART
    STANDSTILL TREADING WAITING WORK_ON_THE_DECAYED YOUTHFUL_FOLLY AFTER/BEFORE( COMPLETION )
    GATHERING/HOLDING( TOGETHER ) GREAT( POSSESSION POWER PREPONDERANCE TAMING ) SMALL(
    PREPONDERANCE TAMING ) THE( ABYSMAL_WATER ARMY AROUSING_THUNDER CAULDRON CLINGING_FIRE
    CREATIVE_HEAVEN FAMILY GENTLE_WIND JOYOUS_LAKE KEEPING_STILL_MOUNTAIN MARRYING_MAIDEN
    RECEPTIVE_EARTH WANDERER WELL ) ) HIGH( BRIGHTNESS_SYMBOL OCTET_PRESET VOLTAGE_SIGN )
    HIGH-SPEED_TRAIN=( WITH_BULLET_NOSE ) HIRAGANA( DIGRAPH_YORI ITERATION_MARK
    VOICED_ITERATION_MARK LETTER( A BA BE BI BO BU DA DE DI DO DU E GA GE GI GO GU HA HE HI HO HU
    I KA KE KI KO KU MA ME MI MO MU N NA NE NI NO NU O PA PE PI PO PU RA RE RI RO RU SA SE SI SO
    SU TA TE TI TO TU U VU WA WE WI WO YA YO YU ZA ZE ZI ZO ZU ARCHAIC( WU YE ) SMALL( A E I KA KE
    O TU U WA WE WI WO YA YO YU ) ) ) HOLLOW_QUILT_SQUARE_ORNAMENT=( IN_BLACK_SQUARE ) HORIZONTAL(
    BAR ELLIPSIS LINE_EXTENSION MALE_WITH_STROKE_SIGN TAB_KEY TRAFFIC_LIGHT BLACK( HEXAGON OCTAGON
    ) ONE_EIGHTH( BLOCK-1358 BLOCK-2:7 ) SCAN( LINE-1 LINE-3 LINE-7 LINE-9 ) TABULATION=( SET
    WITH_JUSTIFICATION ) ) HORSE=( FACE RACING ) HOT( BEVERAGE DOG PEPPER SPRINGS ) HOURGLASS=(
    WITH_FLOWING_SAND ) HOUSE=( BUILDING BUILDINGS WITH_GARDEN ) HYPHEN=( BULLET WITH_DIAERESIS )"),
  ('I', "IDENTIFICATION_CARD IMP INBOX_TRAY INCOMING_ENVELOPE INCOMPLETE_INFINITY INCREASES_AS
    INCREASE_FONT_SIZE_SYMBOL INCREMENT IND INDIAN_RUPEE_SIGN INSERTION_SYMBOL INTERCALATE
    INTERIOR_PRODUCT INTERLOCKED_FEMALE_AND_MALE_SIGN INTERROBANG IZAKAYA_LANTERN
    I_LOVE_YOU_HAND_SIGN ICE( CREAM CUBE HOCKEY_STICK_AND_PUCK SKATE ) IDENTICAL( WITH_DOT_ABOVE
    TO=( AND_SLANTED_PARALLEL ) ) IDEOGRAPHIC( COMMA FULL_STOP HALF_FILL_SPACE NUMBER_ZERO SPACE
    VARIATION_INDICATOR ANNOTATION(
    BOTTOM/EARTH/FIRST/FOUR/FOURTH/HEAVEN/LINKING/MAN/MIDDLE/ONE/REVERSE/SECOND/THIRD/THREE( MARK
    ) TOP/TWO( MARK ) ) CLOSING/ITERATION( MARK ) DEPARTING/ENTERING/LEVEL/RISING( TONE_MARK )
    DESCRIPTION_CHARACTER( FULL_SURROUND OVERLAID ABOVE_TO( BELOW MIDDLE_AND_BELOW ) LEFT_TO(
    MIDDLE_AND_RIGHT RIGHT ) SURROUND_FROM( ABOVE BELOW LEFT LOWER_LEFT UPPER( LEFT RIGHT ) ) )
    TALLY_MARK( FIVE FOUR ONE THREE TWO ) TELEGRAPH( LINE_FEED_SEPARATOR_SYMBOL SYMBOL_FOR( APRIL
    AUGUST DECEMBER FEBRUARY JANUARY JULY JUNE MARCH MAY NOVEMBER OCTOBER SEPTEMBER DAY( EIGHT
    EIGHTEEN ELEVEN FIFTEEN FIVE FOUR FOURTEEN NINE NINETEEN ONE SEVEN SEVENTEEN SIX SIXTEEN TEN
    THIRTEEN THIRTY THIRTY-ONE THREE TWELVE TWENTY TWENTY-EIGHT TWENTY-FIVE TWENTY-FOUR
    TWENTY-NINE TWENTY-ONE TWENTY-SEVEN TWENTY-SIX TWENTY-THREE TWENTY-TWO TWO ) HOUR( EIGHT
    EIGHTEEN ELEVEN FIFTEEN FIVE FOUR FOURTEEN NINE NINETEEN ONE SEVEN SEVENTEEN SIX SIXTEEN TEN
    THIRTEEN THREE TWELVE TWENTY TWENTY-FOUR TWENTY-ONE TWENTY-THREE TWENTY-TWO TWO ZERO ) ) ) )
    IMAGE_OF=( OR_APPROXIMATELY_EQUAL_TO ) IMPERIAL_ARAMAIC( SECTION_SIGN LETTER( ALEPH AYIN BETH
    DALETH GIMEL HE HETH KAPH LAMEDH MEM NUN PE QOPH RESH SADHE SAMEKH SHIN TAW TETH WAW YODH
    ZAYIN ) NUMBER( THREE TWENTY TWO ONE=( HUNDRED THOUSAND ) TEN=( THOUSAND ) ) ) INDEX=(
    POINTING_AT_THE_VIEWER ) INDIC_SIYAQ( ALTERNATE_LAKH_MARK PLACEHOLDER FRACTION( THREE_QUARTERS
    ONE( HALF QUARTER ) ) LAKH/RUPEE( MARK ) NUMBER( KAROR KARORAN LAKH LAKHAN ALTERNATE( ONE
    TEN_THOUSAND TWO ) EIGHT/FIVE/FOUR/NINE/ONE/SEVEN/SIX/THREE/TWO=( HUNDRED THOUSAND )
    EIGHTY/FIFTY/FORTY/NINETY/SEVENTY/SIXTY/TEN/THIRTY/TWENTY=( THOUSAND ) PREFIXED( EIGHT FIVE
    FOUR NINE ONE SEVEN SIX THREE TWO ) ) ) INFINITY=( NEGATED_WITH_VERTICAL_BAR ) INFORMATION(
    DESK_PERSON SOURCE SEPARATOR( FOUR ONE THREE TWO ) ) INHIBIT( ARABIC_FORM_SHAPING
    SYMMETRIC_SWAPPING ) INPUT_SYMBOL_FOR( NUMBERS SYMBOLS LATIN( LETTERS CAPITAL/SMALL( LETTERS )
    ) ) INSCRIPTIONAL( PAHLAVI( LETTER( ALEPH BETH DALETH GIMEL HE HETH KAPH LAMEDH MEM-QOPH NUN
    PE SADHE SAMEKH SHIN TAW TETH WAW-AYIN-RESH YODH ZAYIN ) NUMBER( FOUR TEN THREE TWENTY TWO
    ONE=( HUNDRED THOUSAND ) ) ) PARTHIAN( LETTER( ALEPH AYIN BETH DALETH GIMEL HE HETH KAPH
    LAMEDH MEM NUN PE QOPH RESH SADHE SAMEKH SHIN TAW TETH WAW YODH ZAYIN ) NUMBER( FOUR TEN THREE
    TWENTY TWO ONE=( HUNDRED THOUSAND ) ) ) ) INTEGRAL=( AROUND_A_POINT_OPERATOR
    AVERAGE_WITH_SLASH EXTENSION WITH( DOUBLE_STROKE INTERSECTION LEFTWARDS_ARROW_WITH_HOOK
    OVERBAR TIMES_SIGN UNDERBAR UNION ) ) INTERLINEAR_ANNOTATION( ANCHOR SEPARATOR TERMINATOR )
    INTERSECTION=( BESIDE_AND_JOINED_WITH_INTERSECTION ABOVE( BAR_ABOVE_UNION UNION ) WITH( DOT
    LOGICAL_AND OVERBAR ) ) INVERSE( BULLET CHECKER_BOARD_FILL CHECK_MARK
    DOWNWARDS_ARROW_WITH_TIP_LEFTWARDS MEDIUM_SHADE WHITE_CIRCLE ) INVERTED( INTERROBANG LAZY_S
    OHM_SIGN PENTAGRAM UNDERTIE EXCLAMATION/QUESTION( MARK ) LOW_KAVYKA=( WITH_KAVYKA_ABOVE ) )
    INVISIBLE( PLUS SEPARATOR TIMES )"),
  ('J', "JACK-O-LANTERN JAR JEANS JIGSAW_PUZZLE_PIECE JOIN JOYSTICK JUGGLING JUNO JUPITER JAPANESE(
    BANK_SYMBOL CASTLE DOLLS GOBLIN INDUSTRIAL_STANDARD_SYMBOL OGRE POST_OFFICE
    SYMBOL_FOR_BEGINNER ) JAVANESE( PANGKON PANGRANGKEP TURNED_PADA_PISELEH CONSONANT_SIGN( CAKRA
    KERET PENGKAL ) DIGIT( EIGHT FIVE FOUR NINE ONE SEVEN SIX THREE TWO ZERO ) LEFT/RIGHT(
    RERENGGAN ) LETTER( A AI E HA II LA MA O U WA YA BA/CA/GA/NA/NYA/TA=( MURDA ) DA/DDA/JA/TTA=(
    MAHAPRANA ) I=( KAWI ) KA=( MURDA SASAK ) NGA=( LELET=( RASWADI ) ) PA=( CEREK MURDA ) RA=(
    AGUNG ) SA=( MAHAPRANA MURDA ) ) PADA( ANDAP ISEN-ISEN LINGSA LUHUR LUNGSI MADYA PANGKAT
    PISELEH TIRTA_TUMETES WINDU ADEG=( ADEG ) ) SIGN( LAYAR PANYANGGA WIGNYAN CECAK=( TELU ) )
    VOWEL_SIGN( DIRGA_MURE PEPET TALING TARUNG TOLONG SUKU=( MENDUT ) WULU=( MELIK ) ) )"),
  ('K', "KAABA KANGAROO KEY KEYCAP_TEN KHITAN_SMALL_SCRIPT_FILLER KIMONO KITE KIWIFRUIT KNEELING_PERSON
    KNOT KOALA KOREAN_STANDARD_SYMBOL KRONOS KAITHI( DANDA SECTION_MARK ABBREVIATION/ENUMERATION(
    SIGN ) DOUBLE( DANDA SECTION_MARK ) LETTER( A AA AI AU BA BHA CA CHA DA DDA DDDHA DDHA DHA E
    GA GHA HA I II JA JHA KA KHA LA MA NA NGA NNA NYA O PA PHA RA RHA SA SHA SSA TA THA TTA TTHA U
    UU VA YA ) NUMBER_SIGN=( ABOVE ) SIGN( ANUSVARA CANDRABINDU NUKTA VIRAMA VISARGA ) VOWEL_SIGN(
    AA AI AU E I II O U UU VOCALIC_R ) ) KANGXI_RADICAL( AGAIN AND ARRIVE ARROW AXE BADGER BAMBOO
    BEAN BIG BIRD BITTER BLACK BLOOD BLUE BOAT BODY BOLT_OF_CLOTH BONE BOW BRANCH BRISTLE BRUSH
    CART CAULDRON CAVE CHILD CITY CLAN CLAW CLIFF CLOTHES COLOR COMPARE CORPSE COVER COW DEATH
    DEER DIPPER DISH DISTINGUISH DIVINATION DOG DOOR DOT DOUBLE_X DO_NOT DRAGON DRUM DRY EAR EARTH
    EAT EIGHT EMBROIDERY ENCLOSURE ENTER EVEN EVENING EYE FACE FANG FATHER FEATHER FIELD FIGHT
    FIRE FISH FLUTE FLY FOOT FRAGRANT FROG FUR GATE GHOST GOLD GRAIN GRASS HAIR HALBERD
    HALF_TREE_TRUNK HAND HEAD HEART HEMP HIDING_ENCLOSURE HOOK HORN HORSE ICE INCH INSECT JADE JAR
    KNIFE LACK LAME LEAF LEATHER LEEK LEGS LID LIFE LINE MAN MEAT MELON MILLET MINISTER MOON
    MORNING MORTAR MOUND MOUNTAIN MOUTH NET NOSE NOT OLD ONE ONESELF OPPOSE PIG PLOW POWER PRIVATE
    PROFOUND RAIN RAP RAT RED RICE RIGHT_OPEN_BOX RIVER ROOF RUN SACRIFICIAL_WINE SALT SAY SCHOLAR
    SCRIPT SEAL SECOND SEE SELF SHEEP SHELL SHOOT SICKNESS SILK SKIN SLASH SLAVE SLICE SMALL SNOUT
    SOUND SPEAR SPEECH SPIRIT SPOON SPROUT SQUARE STAND STEAM STEP STONE STOP STOPPING SUN SWEET
    TABLE TALL TANNED_LEATHER TEN TIGER TILE TONGUE TOOTH TRACK TREE TRIPOD TURBAN TURTLE USE
    VALLEY VILLAGE WATER WEAPON WEST WHEAT WHITE WIND WINE WOMAN WORK WRAP WRONG YELLOW DOTTED(
    CLIFF TENT ) DOWN/OPEN( BOX ) GO=( SLOWLY ) LONG=( STRIDE ) SHORT( TAILED_BIRD THREAD ) TWO=(
    HANDS ) WALK=( ENCLOSURE ) ) KANNADA( AI_LENGTH_MARK LENGTH_MARK DIGIT( EIGHT FIVE FOUR NINE
    ONE SEVEN SIX THREE TWO ZERO ) LETTER( A AA AI AU BA BHA CA CHA DA DDA DDHA DHA E EE FA GA GHA
    HA I II JA JHA KA KHA LA LLA LLLA MA NA NAKAARA_POLLU NGA NNA NYA O OO PA PHA RA RRA SA SHA
    SSA TA THA TTA TTHA U UU VA YA VOCALIC( L LL R RR ) ) SIGN( ANUSVARA AVAGRAHA CANDRABINDU
    JIHVAMULIYA NUKTA SIDDHAM SPACING_CANDRABINDU UPADHMANIYA VIRAMA VISARGA ) VOWEL_SIGN( AA AI
    AU E EE I II O OO U UU VOCALIC( L LL R RR ) ) ) KATAKANA( DIGRAPH_KOTO ITERATION_MARK
    MIDDLE_DOT VOICED_ITERATION_MARK LETTER( A BA BE BI BO BU DA DE DI DO DU E GA GE GI GO GU HA
    HE HI HO HU I KA KE KI KO KU MA ME MI MO MU N NA NE NI NO NU O PA PE PI PO PU RA RE RI RO RU
    SA SE SI SO SU TA TE TI TO TU U VA VE VI VO VU WA WE WI WO YA YO YU ZA ZE ZI ZO ZU ARCHAIC( E
    WU YE YI ) MINNAN( TONE-2:5 TONE-7 TONE-8 NASALIZED( TONE-1:5 TONE-7 TONE-8 ) ) SMALL( A E HA
    HE HI HO HU I KA KE KU MU N NU O RA RE RI RO RU SI SU TO TU U WA WE WI WO YA YO YU ) ) )
    KATAKANA-HIRAGANA( DOUBLE_HYPHEN PROLONGED/SEMI-VOICED/VOICED( SOUND_MARK ) ) KAYAH_LI( DIGIT(
    EIGHT FIVE FOUR NINE ONE SEVEN SIX THREE TWO ZERO ) LETTER( A BA CA DA GA HA HTA I KA KHA LA
    MA NA NGA NYA OE OO PA PHA RA SA SHA TA THA VA WA YA ZA ) SIGN( CWI SHYA ) TONE( PLOPHU
    CALYA=( PLOPHU ) ) VOWEL( E EE O U UE ) ) KELVIN/KIP( SIGN ) KEYBOARD=( AND_MOUSE )
    KHAROSHTHI( FRACTION_ONE_HALF VIRAMA DIGIT( FOUR ONE THREE TWO ) LETTER( A BA BHA CA CHA DA
    DDA DDHA DHA GA GHA HA JA KA KHA KKA LA MA NA NNA NYA PA PHA RA SA SHA SSA TA THA TTA TTHA
    TTTA TTTHA VA VHA YA ZA ) NUMBER( TEN TWENTY ONE( HUNDRED THOUSAND ) ) PUNCTUATION( CIRCLE
    CRESCENT_BAR DANDA DOT DOUBLE_DANDA LINES LOTUS MANGALAM SMALL_CIRCLE ) SIGN( ANUSVARA
    BAR_ABOVE CAUDA DOT_BELOW DOUBLE_RING_BELOW VISARGA ) VOWEL( LENGTH_MARK SIGN( E I O U
    VOCALIC_R ) ) ) KHMER( CURRENCY_SYMBOL_RIEL DIGIT( EIGHT FIVE FOUR NINE ONE SEVEN SIX THREE
    TWO ZERO ) INDEPENDENT_VOWEL( LY LYY QAA QAI QAQ QAU QE QI QII QU QUK QUU QUUV RY RYY
    QOO_TYPE( ONE TWO ) ) LETTER( BA CA CHA CHO CO DA DO HA KA KHA KHO KO LA LO MO NGO NNO NO NYO
    PHA PHO PO QA RO SA SHA SSO TA THA THO TO TTHA TTHO VO YO ) SIGN( AHSDA ATTHACAN AVAKRAHASANYA
    BANTOC BARIYOOSAN BATHAMASAT BEYYAL CAMNUC_PII_KUUH COENG KAKABAT KHAN KOOMUUT LEK_TOO
    MUUSIKATOAN NIKAHIT PHNAEK_MUAN REAHMUK ROBAT SAMYOK_SANNYA TOANDAKHIAT TRIISAP VIRIAM
    YUUKALEAPINTU ) SYMBOL( PATHAMASAT TUTEYASAT
    BEI/BUON/DAP/DAP-BEI/DAP-BUON/DAP-MUOY/DAP-PII/DAP-PRAM/MUOY/PII/PRAM/PRAM-BEI/PRAM-BUON( KOET
    ROC ) LEK_ATTAK( BEI BUON MUOY PII PRAM PRAM-BEI PRAM-BUON PRAM-MUOY PRAM-PII SON )
    PRAM-MUOY/PRAM-PII( KOET ROC ) ) VOWEL( INHERENT( AA AQ ) SIGN( AA AE AI AU E I IE II OE OO U
    UA UU Y YA YY ) ) ) KHOJKI( ABBREVIATION_SIGN DANDA SECTION_MARK WORD_SEPARATOR DOUBLE( DANDA
    SECTION_MARK ) LETTER( A AA AI AU BA BBA BHA CA CHA DA DDA DDDA DDHA DHA E GA GGA GHA HA I JA
    JJA KA KHA LA LLA MA NA NGA NNA NYA O PA PHA RA SA TA THA TTA TTHA U VA YA ) SIGN( ANUSVARA
    NUKTA SHADDA SUKUN VIRAMA ) VOWEL_SIGN( AA AI AU E I II O U ) ) KHUDAWADI( DIGIT( EIGHT FIVE
    FOUR NINE ONE SEVEN SIX THREE TWO ZERO ) LETTER( A AA AI AU BA BBA BHA CA CHA DA DDA DDDA DDHA
    DHA E GA GGA GHA HA I II JA JHA JJA KA KHA LA MA NA NGA NNA NYA O PA PHA RA RRA SA SHA TA THA
    TTA TTHA U UU VA YA ) SIGN( ANUSVARA NUKTA VIRAMA ) VOWEL_SIGN( AA AI AU E I II O U UU ) )
    KISS=( MARK ) KISSING( CAT_FACE_WITH_CLOSED_EYES FACE=( WITH( CLOSED/SMILING( EYES ) ) ) )"),
  ('L', "LABEL LAB_COAT LACROSSE_STICK_AND_BALL LADDER LADY_BEETLE LANGUAGE_TAG LEAFY_GREEN
    LEAF_FLUTTERING_IN_WIND LEDGER LEFT-HANDED_INTERLACED_PENTAGRAM
    LEFT-SHADED_WHITE_RIGHTWARDS_ARROW LEFT-SIDE_ARC_ANTICLOCKWISE_ARROW LEG LEMON LEO LEOPARD
    LEVEL_SLIDER LF LIBRA LIGATURE_OPEN_ET_ORNAMENT LIMITED_LIABILITY_SIGN LINKED_PAPERCLIPS
    LINK_SYMBOL LIPS LIPSTICK LIVRE_TOURNOIS_SIGN LIZARD LLAMA LOBSTER LOLLIPOP LOTION_BOTTLE
    LOTUS LOUDLY_CRYING_FACE LRE LRI LRM LRO LUGGAGE LUNGS L_B_BAR_SYMBOL LAO( CANCELLATION_MARK
    ELLIPSIS KO_LA NIGGAHITA SIGN_PALI_VIRAMA DIGIT( EIGHT FIVE FOUR NINE ONE SEVEN SIX THREE TWO
    ZERO ) HO( MO NO ) LETTER( BO CO DO KO MO NGO NO NYO O PO RO TO WO YO FO( FAY FON SUNG TAM )
    HO/KHO/PHO/SO/THO( SUNG TAM ) KHMU( GO NYO ) LO=( LING LOOT ) PALI( BHA CHA DDA DDHA DHA GHA
    JHA LLA NNA NYA TTA TTHA ) SANSKRIT( SHA SSA ) ) SEMIVOWEL_SIGN( LO NYO ) TONE_MAI( CATAWA EK
    THO TI ) VOWEL_SIGN( A AA AI AM AY E EI I II O U UU Y YY MAI( KAN KON ) ) ) LARGE( CIRCLE
    LEFT_TRIANGLE_OPERATOR TRIPLE_VERTICAL_BAR_OPERATOR BLUE/ORANGE( CIRCLE DIAMOND SQUARE )
    BROWN/GREEN/PURPLE/RED/YELLOW( CIRCLE SQUARE ) DOWN/UP( TACK ) ONE(
    DOT_OVER_TWO_DOTS_PUNCTUATION RING_OVER_TWO_RINGS_PUNCTUATION ) TWO(
    DOTS_OVER_ONE_DOT_PUNCTUATION RINGS_OVER_ONE_RING_PUNCTUATION ) ) LARGER_THAN=( OR_EQUAL_TO )
    LARI/LIRA( SIGN ) LAST_QUARTER_MOON=( SYMBOL WITH_FACE ) LATIN( CROSS CAPITAL( LETTER( AA
    AFRICAN_D ALPHA ANGLICANA_W AO AU AY BETA BROKEN_L CHI CLOSED_INSULAR_G CON ENG ESH ET ETH
    GAMMA GHA HALF_H HENG HWAIR IOTA IS LJ MIDDLE_SCOTS_S NJ OI OLD_POLISH_O OMEGA OO OU
    RUM_ROTUNDA SALTILLO SCHWA SCRIPT_G TRESILLO TZ UPSILON VEND VISIGOTHIC_Z VY WYNN YOGH A=(
    WITH( ACUTE CARON DOUBLE_GRAVE GRAVE HOOK_ABOVE INVERTED_BREVE MACRON OGONEK STROKE TILDE
    BREVE/CIRCUMFLEX=( AND( ACUTE DOT_BELOW GRAVE HOOK_ABOVE TILDE ) ) DIAERESIS=( AND_MACRON )
    DOT( BELOW ABOVE=( AND_MACRON ) ) RING( BELOW ABOVE=( AND_ACUTE ) ) ) ) AE=( WITH( ACUTE
    MACRON ) ) AV=( WITH_HORIZONTAL_BAR ) B=( WITH( FLOURISH HOOK LINE_BELOW STROKE TOPBAR DOT(
    ABOVE BELOW ) ) ) C=( WITH( ACUTE BAR CARON CIRCUMFLEX DOT_ABOVE HOOK PALATAL_HOOK STROKE
    CEDILLA=( AND_ACUTE ) ) ) CUATRILLO=( WITH_COMMA ) D=( WITH( CARON CEDILLA HOOK
    SHORT_STROKE_OVERLAY STROKE TOPBAR CIRCUMFLEX/LINE( BELOW ) DOT( ABOVE BELOW )
    SMALL_LETTER_Z=( WITH_CARON ) ) ) DZ=( WITH_CARON ) E=( WITH( ACUTE BREVE CARON DIAERESIS
    DOUBLE_GRAVE GRAVE HOOK_ABOVE INVERTED_BREVE OGONEK STROKE CEDILLA=( AND_BREVE ) CIRCUMFLEX=(
    BELOW AND( ACUTE DOT_BELOW GRAVE HOOK_ABOVE TILDE ) ) DOT( ABOVE BELOW ) MACRON=( AND( ACUTE
    GRAVE ) ) TILDE=( BELOW ) ) ) EGYPTOLOGICAL( AIN ALEF ) EZH=( REVERSED WITH_CARON ) F=( WITH(
    DOT_ABOVE HOOK STROKE ) ) G=( WITH( ACUTE BREVE CARON CEDILLA CIRCUMFLEX DOT_ABOVE HOOK MACRON
    OBLIQUE_STROKE STROKE ) ) GLOTTAL( A I STOP U ) H=( WITH( BREVE_BELOW CARON CEDILLA CIRCUMFLEX
    DESCENDER DIAERESIS HOOK STROKE DOT( ABOVE BELOW ) ) ) I=( WITH( ACUTE BREVE CARON CIRCUMFLEX
    DOUBLE_GRAVE GRAVE HOOK_ABOVE INVERTED_BREVE MACRON OGONEK STROKE DIAERESIS=( AND_ACUTE ) DOT(
    ABOVE BELOW ) TILDE=( BELOW ) ) ) INSULAR( D F G R S T ) J=( WITH( CIRCUMFLEX CROSSED-TAIL
    STROKE ) ) K=( WITH( ACUTE CARON CEDILLA DESCENDER HOOK DIAGONAL/OBLIQUE( STROKE ) DOT/LINE(
    BELOW ) STROKE=( AND_DIAGONAL_STROKE ) ) ) L=( WITH( ACUTE BAR BELT CARON CEDILLA DOUBLE_BAR
    HIGH_STROKE SMALL_LETTER_J STROKE CIRCUMFLEX/LINE( BELOW ) DOT_BELOW=( AND_MACRON ) MIDDLE(
    DOT TILDE ) ) ) M=( WITH( ACUTE HOOK DOT( ABOVE BELOW ) ) ) MIDDLE-WELSH( LL V ) N=( WITH(
    ACUTE CARON CEDILLA DESCENDER GRAVE LEFT_HOOK LONG_RIGHT_LEG OBLIQUE_STROKE SMALL_LETTER_J
    TILDE CIRCUMFLEX/LINE( BELOW ) DOT( ABOVE BELOW ) ) ) O=( WITH( ACUTE BREVE CARON GRAVE
    HOOK_ABOVE INVERTED_BREVE LONG_STROKE_OVERLAY LOOP MIDDLE_TILDE CIRCUMFLEX/HORN=( AND( ACUTE
    DOT_BELOW GRAVE HOOK_ABOVE TILDE ) ) DIAERESIS/OGONEK=( AND_MACRON ) DOT( BELOW ABOVE=(
    AND_MACRON ) ) DOUBLE( ACUTE GRAVE ) MACRON=( AND( ACUTE GRAVE ) ) STROKE=( AND_ACUTE )
    TILDE=( AND( ACUTE DIAERESIS MACRON ) ) ) ) OPEN( E O ) P=( WITH( ACUTE DOT_ABOVE FLOURISH
    HOOK SQUIRREL_TAIL STROKE=( THROUGH_DESCENDER ) ) ) Q=( WITH( DIAGONAL_STROKE
    STROKE_THROUGH_DESCENDER ) ) R=( ROTUNDA WITH( ACUTE CARON CEDILLA DOUBLE_GRAVE INVERTED_BREVE
    LINE_BELOW OBLIQUE_STROKE STROKE TAIL DOT( ABOVE BELOW=( AND_MACRON ) ) ) ) REVERSED(
    C_WITH_DOT E HALF_H OPEN_E ) S=( WITH( CEDILLA CIRCUMFLEX COMMA_BELOW HOOK OBLIQUE_STROKE
    SHORT_STROKE_OVERLAY SWASH_TAIL ACUTE/CARON=( AND_DOT_ABOVE ) DOT( ABOVE BELOW=( AND_DOT_ABOVE
    ) ) ) ) SHARP/SIGMOID( S ) SMALL( CAPITAL_I Q_WITH_HOOK_TAIL ) T=( WITH( CARON CEDILLA
    DIAGONAL_STROKE HOOK RETROFLEX_HOOK STROKE CIRCUMFLEX/COMMA/LINE( BELOW ) DOT( ABOVE BELOW ) )
    ) THORN=( WITH_STROKE=( THROUGH_DESCENDER ) ) TONE( FIVE SIX TWO ) TURNED( A ALPHA H INSULAR_G
    K L M T V ) U=( BAR WITH( ACUTE BREVE CARON DOT_BELOW GRAVE INVERTED_BREVE OGONEK STROKE
    CIRCUMFLEX=( BELOW ) DIAERESIS=( BELOW AND( ACUTE CARON GRAVE MACRON ) ) DOUBLE( ACUTE GRAVE )
    HOOK/RING( ABOVE ) HORN=( AND( ACUTE DOT_BELOW GRAVE HOOK_ABOVE TILDE ) ) MACRON=(
    AND_DIAERESIS ) TILDE=( AND_ACUTE BELOW ) ) ) V=( WITH( DIAGONAL_STROKE DOT_BELOW HOOK TILDE )
    ) VOLAPUK( AE OE UE ) W=( WITH( ACUTE CIRCUMFLEX DIAERESIS GRAVE HOOK DOT( ABOVE BELOW ) ) )
    X=( WITH( DIAERESIS DOT_ABOVE ) ) Y=( WITH( ACUTE CIRCUMFLEX DIAERESIS GRAVE LOOP MACRON
    STROKE TILDE DOT( ABOVE BELOW ) HOOK=( ABOVE ) ) ) Z=( WITH( ACUTE CARON CIRCUMFLEX DESCENDER
    HOOK LINE_BELOW PALATAL_HOOK STROKE SWASH_TAIL DOT( ABOVE BELOW ) ) ) ) LIGATURE( IJ OE ) )
    EPIGRAPHIC_LETTER( I_LONGA SIDEWAYS_I ARCHAIC/INVERTED( M ) REVERSED( F P ) ) LETTER( AIN
    BIDENTAL_PERCUSSIVE PHARYNGEAL_VOICED_FRICATIVE SINOLOGICAL_DOT TWO_WITH_STROKE
    VOICED_LARYNGEAL_SPIRANT WYNN YR ALVEOLAR/DENTAL/LATERAL( CLICK ) BILABIAL( CLICK PERCUSSIVE )
    GLOTTAL_STOP=( WITH_STROKE ) INVERTED_GLOTTAL_STOP=( WITH( CURL STROKE ) ) RETROFLEX_CLICK=(
    WITH_RETROFLEX_HOOK ) REVERSED( ESH_LOOP GLOTTAL_STOP_WITH_STROKE ) SMALL_CAPITAL( A AE B
    BARRED_B C D E ETH EZH F H I INVERTED_R J K M N O OE OPEN_O OU P Q RUM S T U V W Y Z G=(
    WITH_HOOK ) L=( WITH( BELT STROKE ) ) R=( WITH_RIGHT_LEG ) REVERSED( N R ) TURNED( E G K M R )
    ) STRETCHED_C=( WITH_CURL ) ) SMALL( CAPITAL_LETTER( I/U( WITH_STROKE ) ) LETTER( AA
    ANGLICANA_W AO AU AY BASELINE_ESH BETA BROKEN_L CON DELTA DUM ET ETH GAMMA GHA HALF_H HV
    IOTIFIED_E IS KRA LAMBDA_WITH_STROKE LENIS_F LJ LUM MIDDLE_SCOTS_S MUM NJ NUM OI OLD_POLISH_O
    OMEGA OO OU PHI RAMS_HORN SAKHA_YAT SALTILLO SQUAT_REVERSED_ESH STIRRUP_R TAILLESS_PHI
    TC_DIGRAPH_WITH_CURL TH_WITH_STRIKETHROUGH TRESILLO TUM TZ UE UI UM UO VEND VISIGOTHIC_Z VY
    YOGH A=( REVERSED-SCHWA WITH( ACUTE CARON DOUBLE_GRAVE GRAVE HOOK_ABOVE INVERTED_BREVE MACRON
    OGONEK RETROFLEX_HOOK RIGHT_HALF_RING STROKE TILDE BREVE/CIRCUMFLEX=( AND( ACUTE DOT_BELOW
    GRAVE HOOK_ABOVE TILDE ) ) DIAERESIS=( AND_MACRON ) DOT( BELOW ABOVE=( AND_MACRON ) ) RING(
    BELOW ABOVE=( AND_ACUTE ) ) ) ) AE=( WITH( ACUTE MACRON ) ) ALPHA/LEZH=( WITH_RETROFLEX_HOOK )
    AV=( WITH_HORIZONTAL_BAR ) B=( WITH( FLOURISH HOOK LINE_BELOW MIDDLE_TILDE PALATAL_HOOK STROKE
    TOPBAR DOT( ABOVE BELOW ) ) ) BARRED( ALPHA E O ) BLACKLETTER( E O=( WITH_STROKE ) )
    BOTTOM/TOP( HALF_O ) C=( WITH( ACUTE BAR CARON CIRCUMFLEX CURL DOT_ABOVE HOOK STROKE CEDILLA=(
    AND_ACUTE ) PALATAL/RETROFLEX( HOOK ) ) ) CHI=( WITH_LOW( LEFT_SERIF RIGHT_RING ) ) CLOSED(
    INSULAR_G OMEGA OPEN_E REVERSED_OPEN_E ) CUATRILLO=( WITH_COMMA ) D=( WITH( CARON CEDILLA CURL
    MIDDLE_TILDE PALATAL_HOOK SHORT_STROKE_OVERLAY STROKE TAIL TOPBAR CIRCUMFLEX/LINE( BELOW )
    DOT( ABOVE BELOW ) HOOK=( AND_TAIL ) ) ) DB/LS/LZ/QP( DIGRAPH ) DEZH/TESH( DIGRAPH=( WITH(
    PALATAL/RETROFLEX( HOOK ) ) ) ) DOTLESS( I J=( WITH_STROKE=( AND_HOOK ) ) ) DOUBLE( THORN WYNN
    R=( WITH_CROSSED-TAIL ) ) DZ=( WITH_CARON DIGRAPH=( WITH( CURL RETROFLEX_HOOK ) ) ) E=( WITH(
    ACUTE BREVE CARON DIAERESIS DOUBLE_GRAVE FLOURISH GRAVE HOOK_ABOVE INVERTED_BREVE NOTCH OGONEK
    RETROFLEX_HOOK STROKE CEDILLA=( AND_BREVE ) CIRCUMFLEX=( BELOW AND( ACUTE DOT_BELOW GRAVE
    HOOK_ABOVE TILDE ) ) DOT( ABOVE BELOW ) MACRON=( AND( ACUTE GRAVE ) ) TILDE=( BELOW ) ) )
    EGYPTOLOGICAL( AIN ALEF ) ENG=( WITH( CROSSED-TAIL PALATAL_HOOK ) ) ESH=( WITH( CURL
    DOUBLE_BAR=( AND_CURL ) PALATAL/RETROFLEX( HOOK ) ) ) EZH=( REVERSED WITH( CARON CURL TAIL
    PALATAL/RETROFLEX( HOOK ) ) ) F=( WITH( DOT_ABOVE HOOK MIDDLE_TILDE PALATAL_HOOK STROKE ) )
    FENG_DIGRAPH=( WITH_TRILL ) G=( WITH( ACUTE BREVE CARON CEDILLA CIRCUMFLEX DOT_ABOVE HOOK
    MACRON OBLIQUE_STROKE PALATAL_HOOK STROKE ) ) GLOTTAL( A I STOP U ) H=( WITH( CARON CEDILLA
    CIRCUMFLEX DESCENDER DIAERESIS HOOK PALATAL_HOOK STROKE BREVE/LINE( BELOW ) DOT( ABOVE BELOW )
    ) ) HENG=( WITH_HOOK ) I=( WITH( ACUTE BREVE CARON CIRCUMFLEX DOT_BELOW DOUBLE_GRAVE GRAVE
    HOOK_ABOVE INVERTED_BREVE MACRON OGONEK RETROFLEX_HOOK DIAERESIS=( AND_ACUTE ) STROKE=(
    AND_RETROFLEX_HOOK ) TILDE=( BELOW ) ) ) INSULAR( D F G R S T ) INVERTED( ALPHA OE )
    IOTA/UPSILON=( WITH_STROKE ) J=( WITH( CARON CIRCUMFLEX CROSSED-TAIL STROKE ) ) K=( WITH(
    ACUTE CARON CEDILLA DESCENDER HOOK PALATAL_HOOK DIAGONAL/OBLIQUE( STROKE ) DOT/LINE( BELOW )
    STROKE=( AND_DIAGONAL_STROKE ) ) ) L=( WITH( ACUTE BAR CARON CEDILLA CURL FISHHOOK HIGH_STROKE
    INVERTED_LAZY_S PALATAL_HOOK STROKE BELT=( AND_PALATAL_HOOK ) CIRCUMFLEX/LINE( BELOW )
    DOT_BELOW=( AND_MACRON ) DOUBLE( BAR MIDDLE_TILDE ) MIDDLE( DOT RING TILDE ) RETROFLEX_HOOK=(
    AND_BELT ) ) ) LONG_S=( WITH( DOT_ABOVE DIAGONAL/HIGH( STROKE ) ) ) M=( WITH( ACUTE
    CROSSED-TAIL HOOK MIDDLE_TILDE PALATAL_HOOK DOT( ABOVE BELOW ) ) ) MIDDLE-WELSH( LL V ) N=(
    PRECEDED_BY_APOSTROPHE WITH( ACUTE CARON CEDILLA CROSSED-TAIL CURL DESCENDER GRAVE
    LONG_RIGHT_LEG MIDDLE_TILDE OBLIQUE_STROKE TILDE CIRCUMFLEX/LINE( BELOW ) DOT( ABOVE BELOW )
    LEFT/PALATAL/RETROFLEX( HOOK ) ) ) O=( WITH( ACUTE BREVE CARON GRAVE HOOK_ABOVE INVERTED_BREVE
    LONG_STROKE_OVERLAY LOOP LOW_RING_INSIDE RETROFLEX_HOOK CIRCUMFLEX/HORN=( AND( ACUTE DOT_BELOW
    GRAVE HOOK_ABOVE TILDE ) ) DIAERESIS/OGONEK=( AND_MACRON ) DOT( BELOW ABOVE=( AND_MACRON ) )
    DOUBLE( ACUTE GRAVE ) MACRON=( AND( ACUTE GRAVE ) ) STROKE=( AND_ACUTE ) TILDE=( AND( ACUTE
    DIAERESIS MACRON ) ) ) ) OPEN( OE E=( WITH_RETROFLEX_HOOK ) O=( WITH( RETROFLEX_HOOK STROKE )
    ) ) P=( WITH( ACUTE DOT_ABOVE FLOURISH HOOK MIDDLE_TILDE PALATAL_HOOK SQUIRREL_TAIL STROKE=(
    THROUGH_DESCENDER ) ) ) Q=( WITH( DIAGONAL_STROKE STROKE_THROUGH_DESCENDER HOOK=( TAIL ) ) )
    R=( ROTUNDA WITHOUT_HANDLE WITH( ACUTE CARON CEDILLA CROSSED-TAIL DOUBLE_GRAVE INVERTED_BREVE
    LINE_BELOW LONG_LEG MIDDLE_TILDE OBLIQUE_STROKE PALATAL_HOOK STROKE TAIL DOT( ABOVE BELOW=(
    AND_MACRON ) ) FISHHOOK=( AND( MIDDLE_TILDE PALATAL_HOOK ) ) ) ) REVERSED( E ENG HALF_H K
    R_WITH_FISHHOOK SCRIPT_G C=( WITH_DOT ) OPEN_E=( WITH( HOOK RETROFLEX_HOOK ) ) ) RUM=( ROTUNDA
    ) S=( WITH( CEDILLA CIRCUMFLEX COMMA_BELOW CURL HOOK MIDDLE_TILDE OBLIQUE_STROKE PALATAL_HOOK
    SHORT_STROKE_OVERLAY SWASH_TAIL ACUTE/CARON=( AND_DOT_ABOVE ) DOT( ABOVE BELOW=( AND_DOT_ABOVE
    ) ) ) ) SCHWA=( WITH( HOOK RETROFLEX_HOOK ) ) SCRIPT( G=( WITH_CROSSED-TAIL ) R=( WITH_RING )
    ) SHARP/SIGMOID( S ) SIDEWAYS( DIAERESIZED_U OPEN_O TURNED_M U O=( WITH_STROKE ) ) T=( WITH(
    CARON CEDILLA CURL DIAERESIS DIAGONAL_STROKE MIDDLE_TILDE STROKE CIRCUMFLEX/COMMA/LINE( BELOW
    ) DOT( ABOVE BELOW ) HOOK=( AND_RETROFLEX_HOOK ) PALATAL/RETROFLEX( HOOK ) ) ) THORN=(
    WITH_STROKE=( THROUGH_DESCENDER ) ) TONE( FIVE SIX TWO ) TS_DIGRAPH=( WITH_RETROFLEX_HOOK )
    TURNED( A AE ALPHA DELTA E G I INSULAR_G K L OPEN_E UI V W H=( WITH_FISHHOOK=( AND_TAIL ) )
    M=( WITH_LONG_LEG ) OE=( WITH( HORIZONTAL_STROKE STROKE ) ) O_OPEN-O=( WITH_STROKE ) R=( WITH(
    HOOK MIDDLE_TILDE PALATAL_HOOK TAIL LONG_LEG=( AND_RETROFLEX_HOOK ) ) ) T=( WITH_CURL ) Y=(
    WITH_BELT ) ) U=( BAR=( WITH_SHORT_RIGHT_LEG ) WITH( ACUTE BREVE CARON DOT_BELOW GRAVE
    INVERTED_BREVE OGONEK SHORT_RIGHT_LEG STROKE CIRCUMFLEX=( BELOW ) DIAERESIS=( BELOW AND( ACUTE
    CARON GRAVE MACRON ) ) DOUBLE( ACUTE GRAVE ) HOOK/RING( ABOVE ) HORN=( AND( ACUTE DOT_BELOW
    GRAVE HOOK_ABOVE TILDE ) ) LEFT/RETROFLEX( HOOK ) MACRON=( AND_DIAERESIS ) TILDE=( AND_ACUTE
    BELOW ) ) ) V=( WITH( CURL DIAGONAL_STROKE DOT_BELOW HOOK TILDE PALATAL/RIGHT( HOOK ) ) )
    VOLAPUK( AE OE UE ) W=( WITH( ACUTE CIRCUMFLEX DIAERESIS GRAVE HOOK RING_ABOVE DOT( ABOVE
    BELOW ) ) ) X=( WITH( DIAERESIS DOT_ABOVE LOW_RIGHT_RING PALATAL_HOOK LONG_LEFT_LEG=(
    AND_LOW_RIGHT_RING WITH_SERIF ) ) ) Y=( WITH( ACUTE CIRCUMFLEX DIAERESIS GRAVE LOOP MACRON
    RING_ABOVE SHORT_RIGHT_LEG STROKE TILDE DOT( ABOVE BELOW ) HOOK=( ABOVE ) ) ) Z=( WITH( ACUTE
    CARON CIRCUMFLEX CURL DESCENDER HOOK LINE_BELOW MIDDLE_TILDE STROKE SWASH_TAIL DOT( ABOVE
    BELOW ) PALATAL/RETROFLEX( HOOK ) ) ) ) LIGATURE( FF FFI FFL FI FL IJ LONG_S_T OE ST ) )
    SUBSCRIPT_SMALL_LETTER( A E H I J K L M N O P R S SCHWA T U V X ) ) LEFT(
    ARC_LESS-THAN_BRACKET CEILING CLOSED_ENTRY DOTTED_SUBSTITUTION_BRACKET FISH_TAIL FLOOR
    HAND_TELEPHONE_RECEIVER LOW_PARAPHRASE_BRACKET LUGGAGE MULTIMAP
    NORMAL_FACTOR_SEMIDIRECT_PRODUCT OUTER_JOIN RAISED_OMISSION_BRACKET S-SHAPED_BAG_DELIMITER
    SEMIDIRECT_PRODUCT SIDEWAYS_U_BRACKET SINGLE_QUOTATION_MARK TACK
    THIRD_WHITE_RIGHT_POINTING_INDEX TORTOISE_SHELL_BRACKET TRIANGLE_BESIDE_VERTICAL_BAR
    TRIANGULAR_ONE_QUARTER_BLOCK WIGGLY_FENCE WRITING_HAND AND( LOWER/UPPER(
    AND_RIGHT_TRIANGULAR_THREE_QUARTERS_BLOCK ONE_EIGHTH_BLOCK ) RIGHT( DOUBLE_TURNSTILE TACK
    TRIANGULAR_HALF_BLOCK ) ) ANGER/SPEECH/THOUGHT( BUBBLE ) ANGLE_BRACKET=( WITH_DOT )
    ARROW_WITH( CIRCLED_PLUS SMALL_CIRCLE ) BARB( DOWN/UP( RIGHT_BARB( DOWN/UP( HARPOON ) ) ) )
    BLACK( LENTICULAR_BRACKET TORTOISE_SHELL_BRACKET ) CORNER/SUBSTITUTION/TRANSPOSITION( BRACKET
    ) CURLY_BRACKET=( MIDDLE_PIECE LOWER/UPPER( HOOK ) ) DOUBLE( ANGLE_BRACKET PARENTHESIS
    QUOTATION_MARK WIGGLY_FENCE ) FIVE/SEVEN( EIGHTHS_BLOCK ) HALF( BLOCK FOLDER
    INVERSE_MEDIUM_SHADE_AND_RIGHT_HALF_BLOCK MEDIUM_SHADE RUNNING_MAN BLACK( CIRCLE STAR )
    CIRCLE=( WITH( DOT FOUR/THREE/TWO( DOTS ) ) ) ) ONE( EIGHTH/QUARTER( BLOCK ) ) PARENTHESIS=(
    EXTENSION LOWER/UPPER( HOOK ) ) RIGHT( ARROW=( THROUGH_SMALL_CIRCLE WITH(
    DOUBLE_VERTICAL_STROKE STROKE VERTICAL_STROKE ) )
    BLACK/OPEN-HEADED/SANS-SERIF/TRIANGLE-HEADED/WAVE/WHITE( ARROW ) DOUBLE_ARROW=( WITH( STROKE
    VERTICAL_STROKE ) ) ) SQUARE_BRACKET=( EXTENSION LOWER/UPPER( CORNER ) WITH( DOUBLE_STROKE
    QUILL STROKE UNDERBAR TICK_IN( BOTTOM/TOP( CORNER ) ) ) ) THREE( EIGHTHS/QUARTERS( BLOCK ) )
    VERTICAL( BAR_WITH_QUILL BOX_LINE ) WHITE( PARENTHESIS TORTOISE_SHELL_BRACKET
    CORNER/CURLY/LENTICULAR/SQUARE( BRACKET ) ) ) LEFT-FACING( ARMENIAN_ETERNITY_SIGN FIST
    SVASTI_SIGN=( WITH_DOTS ) ) LEFT-POINTING( ANGLE_BRACKET CURVED_ANGLE_BRACKET
    DOUBLE_ANGLE_QUOTATION_MARK MAGNIFYING_GLASS ) LEFT-TO-RIGHT( EMBEDDING ISOLATE MARK OVERRIDE
    ) LEFTWARDS( ARROW-TAIL HAND PAIRED_ARROWS ROCKET TOP_SHADED_WHITE_ARROW TRIANGLE_ARROWHEAD
    TWO_HEADED_ARROW ARROW=( AND_UPPER_AND_LOWER_ONE_EIGHTH_BLOCK OVER_RIGHTWARDS_ARROW ABOVE(
    ALMOST_EQUAL_TO SHORT_RIGHTWARDS_ARROW TILDE_OPERATOR REVERSE( ALMOST_EQUAL_TO TILDE_OPERATOR
    ) ) FROM_BAR=( TO_BLACK_DIAMOND ) THROUGH( LESS-THAN SUBSET X ) TO( BLACK_DIAMOND BAR=(
    OVER_RIGHTWARDS_ARROW_TO_BAR ) ) WITH( DOTTED_STEM DOUBLE_VERTICAL_STROKE
    EQUILATERAL_ARROWHEAD HOOK LOOP NOTCHED_TAIL PLUS_BELOW STROKE VERTICAL_STROKE LARGE/MEDIUM(
    TRIANGLE_ARROWHEAD ) SMALL( EQUILATERAL/TRIANGLE( ARROWHEAD ) ) TAIL=( WITH(
    DOUBLE_VERTICAL_STROKE VERTICAL_STROKE ) ) TIP( DOWNWARDS UPWARDS ) ) )
    BACK-TILTED/FRONT-TILTED( SHADOWED_WHITE_ARROW ) BLACK( ARROW CIRCLED_WHITE_ARROW )
    BOTTOM-SHADED/LEFT-SHADED/RIGHT-SHADED( WHITE_ARROW )
    COMPRESSED/DASHED/FINGER-POST/OPEN-HEADED/QUADRUPLE/SANS-SERIF/SQUARED/SQUIGGLE/WAVE( ARROW )
    DOUBLE( ARROW-TAIL DASH_ARROW ARROW=( FROM_BAR WITH( STROKE VERTICAL_STROKE ) ) ) HARPOON(
    OVER_RIGHTWARDS_HARPOON WITH_BARB( DOWNWARDS UPWARDS DOWN(
    ABOVE_RIGHTWARDS_HARPOON_WITH_BARB_DOWN BELOW_LONG_DASH FROM/TO( BAR ) ) UP( ABOVE(
    LEFTWARDS_HARPOON_WITH_BARB_DOWN LONG_DASH RIGHTWARDS_HARPOON_WITH_BARB_UP ) FROM/TO( BAR ) )
    ) ) HEAVY( ARROW COMPRESSED_ARROW ) TRIANGLE-HEADED( DASHED_ARROW PAIRED_ARROWS ARROW=(
    OVER_RIGHTWARDS_TRIANGLE-HEADED_ARROW TO_BAR WITH( VERY_HEAVY_SHAFT BOLD/HEAVY/MEDIUM/NARROW(
    SHAFT ) DOUBLE( HORIZONTAL/VERTICAL( STROKE ) ) LONG_TIP( DOWNWARDS UPWARDS ) ) ) ) TRIPLE(
    ARROW DASH_ARROW ) TWO-HEADED( TRIPLE_DASH_ARROW ARROW( FROM_BAR WITH( DOUBLE_VERTICAL_STROKE
    TRIANGLE_ARROWHEADS VERTICAL_STROKE TAIL=( WITH( DOUBLE_VERTICAL_STROKE VERTICAL_STROKE ) ) )
    ) ) WHITE_ARROW=( WITHIN_TRIANGLE_ARROWHEAD ) ) LEPCHA( CONSONANT_SIGN( K KANG L M N NYIN-DO P
    R T ) DIGIT( EIGHT FIVE FOUR NINE ONE SEVEN SIX THREE TWO ZERO ) LETTER( A BA BLA CA CHA DA
    DDA DZA FA FLA GA GLA HA HLA JA KA KHA KLA LA MA MLA NA NGA NYA PA PHA PLA RA SA SHA TA THA
    TSA TSHA TTA TTHA VA WA YA ) PUNCTUATION( CER-WA NYET_THYOOM_TA-ROL TA-ROL TSHOOK=( CER-WA ) )
    SIGN( NUKTA RAN ) SUBJOINED_LETTER( RA YA ) VOWEL_SIGN( AA E I O OO U UU ) ) LESS-THAN(
    EQUAL_TO_OR_GREATER-THAN OVER_EQUAL_TO SIGN ABOVE( DOUBLE-LINE_EQUAL_ABOVE_GREATER-THAN
    GREATER-THAN_ABOVE_DOUBLE-LINE_EQUAL LEFTWARDS_ARROW
    SLANTED_EQUAL_ABOVE_GREATER-THAN_ABOVE_SLANTED_EQUAL SIMILAR( ABOVE_GREATER-THAN OR_EQUAL ) )
    AND( NOT_APPROXIMATE SINGLE-LINE_NOT_EQUAL_TO ) BUT_NOT( EQUAL/EQUIVALENT( TO ) )
    CLOSED_BY_CURVE=( ABOVE_SLANTED_EQUAL ) OR( APPROXIMATE GREATER-THAN EQUAL/EQUIVALENT( TO )
    SLANTED_EQUAL_TO=( WITH_DOT( INSIDE ABOVE=( RIGHT ) ) ) ) WITH( CIRCLE_INSIDE DOT
    QUESTION_MARK_ABOVE ) ) LIGHT( CHECK_MARK GREEK_CROSS RAIL SALTIRE SHADE VERTICAL_BAR
    WHITE_SQUARE EIGHT/SIX( SPOKED_ASTERISK ) FIVE( POINTED_BLACK_STAR SPOKED_ASTERISK )
    FOUR_POINTED_BLACK( CUSP STAR ) LEFT/RIGHT( TORTOISE_SHELL_BRACKET_ORNAMENT ) THREE/TWELVE(
    POINTED_BLACK_STAR ) ) LIGHTNING=( MOOD=( BUBBLE ) ) LIMBU( VOWEL-CARRIER_LETTER DIGIT( EIGHT
    FIVE FOUR NINE ONE SEVEN SIX THREE TWO ZERO ) EXCLAMATION/QUESTION( MARK ) LETTER( BA BHA CA
    CHA DA DHA GA GHA GYAN HA JA JHA KA KHA LA MA NA NGA PA PHA RA SA SHA SSA TA THA TRA WA YA YAN
    ) SIGN( KEMPHRENG LOO MUKPHRENG SA-I ) SMALL_LETTER( ANUSVARA KA LA MA NA NGA PA RA TA )
    SUBJOINED_LETTER( RA WA YA ) VOWEL_SIGN( A AI AU E EE I O OO U ) ) LINE( FEED SEPARATOR
    INTEGRATION( NOT_INCLUDING_THE_POLE WITH( RECTANGULAR/SEMICIRCULAR( PATH_AROUND_POLE ) ) )
    TABULATION=( SET ) ) LINEAR( A_SIGN( A028B A100-102 A120B A131C A301:308 A309A A309B A309C
    A310:312 A313A A313B A313C A314:371 A400-VAS A401-VAS A402-VAS A403-VAS A404-VAS A405-VAS
    A406-VAS A407-VAS A408-VAS A409-VAS A410-VAS A411-VAS A412-VAS A413-VAS A414-VAS A415-VAS
    A416-VAS A417-VAS A418-VAS A501:506 A508:513 A515 A516 A520 A521 A523:532 A534:542 A545
    A547:557 A559 A563:566 A568:589 A591 A592 A594:596 A598 A600:604 A606 A608:624 A626:629 A634
    A637 A638 A640 A642:646 A648 A649 A651:664 A701_A A702_B A703_D A704_E A705_F A706_H A707_J
    A708_K A709-2_L2 A709-3_L3 A709-4_L4 A709-6_L6 A709_L A710_W A711_X A712_Y A713_OMEGA A714_ABB
    A715_BB A717_DD A726_EYYY A732_JE A800:807 AB001:011 AB013 AB016 AB017 AB020:024 AB021F AB021M
    AB022F AB022M AB023M AB026:031 AB034 AB037:041 AB044:051 AB053:061 AB065:067 AB069 AB070 AB073
    AB074 AB076:082 AB085:087 AB118 AB120 AB122 AB123 AB131A AB131B AB164 AB171 AB180 AB188 AB191
    ) B( IDEOGRAM( B100_MAN B102_WOMAN B104_DEER B105F_MARE B105M_STALLION B105_EQUID B106F_EWE
    B106M_RAM B107F_SHE-GOAT B107M_HE-GOAT B108F_SOW B108M_BOAR B109F_COW B109M_BULL B120_WHEAT
    B121_BARLEY B122_OLIVE B123_SPICE B125_CYPERUS B130_OIL B131_WINE B132 B140_BRONZE B141_GOLD
    B142 B145_WOOL B146 B150 B151_HORN B152:154 B157 B158 B159_CLOTH B160 B161 B162_GARMENT
    B163_ARMOUR B164:172 B173_MONTH B174 B176_TREE B177:185 B189 B190 B191_HELMET B220_FOOTSTOOL
    B225_BATHTUB B230_SPEAR B231_ARROW B232 B233_SWORD B234 B236 B240_WHEELED_CHARIOT B241_CHARIOT
    B242_CHARIOT_FRAME B243_WHEEL B245 B246 B248 B249 B251:253 B254_DART B255:259 VESSEL( B155
    B200:219 B221 B222 B226:229 B250 B305 ) ) MONOGRAM( B127_KAPO B128_KANAKO B133_AREPA B135_MERI
    B156_TURO2 B247_DIPTE ) SYLLABLE( B001_DA B002_RO B003_PA B004_TE B005_TO B006_NA B007_DI
    B008_A B009_SE B010_U B011_PO B012_SO B013_ME B014_DO B015_MO B016_QA B017_ZA B020_ZO B021_QI
    B023_MU B024_NE B025_A2 B026_RU B027_RE B028_I B029_PU2 B030_NI B031_SA B032_QO B033_RA3
    B036_JO B037_TI B038_E B039_PI B040_WI B041_SI B042_WO B043_A3 B044_KE B045_DE B046_JE
    B048_NWA B050_PU B051_DU B052_NO B053_RI B054_WA B055_NU B057_JA B058_SU B059_TA B060_RA
    B061_O B062_PTE B065_JU B066_TA2 B067_KI B068_RO2 B069_TU B070_KO B071_DWE B072_PE B073_MI
    B074_ZE B075_WE B076_RA2 B077_KA B078_QE B080_MA B081_KU B085_AU B087_TWE B090_DWO B091_TWO )
    SYMBOL( B018 B019 B022 B034 B047 B049 B056 B063 B064 B079 B082 B083 B086 B089 ) ) )
    LION/LYING( FACE ) LISU( LETTER( A AE BA CA CHA DA DZA E EU FA GA GHA HA HHA I JA KA KHA LA MA
    NA NGA O OE PA PHA SA SHA TA THA TSA TSHA U UE UH WA XA YA YHA ZA ZHA TONE( NA_PO MYA( BO CYA
    JEU NA TI ) ) ) PUNCTUATION( COMMA FULL_STOP ) ) LOCK=( WITH_INK_PEN ) LOCKING-SHIFT( ONE ZERO
    ) LOGICAL( AND=( WITH( DOT_ABOVE HORIZONTAL_DASH MIDDLE_STEM UNDERBAR DOUBLE( OVERBAR UNDERBAR
    ) ) ) OR=( OVERLAPPING_LOGICAL_AND WITH( DOT_ABOVE HORIZONTAL_DASH MIDDLE_STEM DOUBLE( OVERBAR
    UNDERBAR ) ) ) ) LONG( DASH_FROM_LEFT_MEMBER_OF_DOUBLE_VERTICAL DIVISION DRUM RIGHT_TACK LEFT(
    TACK RIGHT( ARROW DOUBLE_ARROW ) ) LEFTWARDS/RIGHTWARDS( SQUIGGLE_ARROW ARROW=( FROM_BAR )
    DOUBLE_ARROW=( FROM_BAR ) ) ) LOVE( HOTEL LETTER ) LOW( ASTERISK BATTERY BRIGHTNESS_SYMBOL
    DOUBLE_PRIME_QUOTATION_MARK LINE KAVYKA=( WITH_DOT ) ) LOWER( BLADE_SCISSORS
    TRIANGULAR_ONE_QUARTER_BLOCK FIVE/SEVEN( EIGHTHS_BLOCK ) HALF( BLOCK CIRCLE
    INVERSE_WHITE_CIRCLE MEDIUM_SHADE ) LEFT( CRAYON PAINTBRUSH PENCIL QUADRANT_CIRCULAR_ARC
    SEMICIRCULAR_ANTICLOCKWISE_ARROW TRIANGLE TRIANGULAR_MEDIUM_SHADE BALLPOINT/FOUNTAIN( PEN )
    BLOCK_DIAGONAL( LOWER_MIDDLE_LEFT_TO_LOWER( CENTRE RIGHT ) UPPER( CENTRE_TO(
    UPPER_MIDDLE_RIGHT LOWER( MIDDLE_RIGHT RIGHT ) ) LEFT_TO( UPPER_MIDDLE_RIGHT LOWER( CENTRE
    MIDDLE_RIGHT ) ) MIDDLE_LEFT_TO_LOWER( CENTRE MIDDLE_RIGHT RIGHT ) ) ) ) ONE( EIGHTH/QUARTER(
    BLOCK ) ) RIGHT( CORNER_WITH_DOT DROP-SHADOWED_WHITE_SQUARE PENCIL QUADRANT_CIRCULAR_ARC
    SEMICIRCULAR_CLOCKWISE_ARROW TRIANGLE TRIANGULAR_MEDIUM_SHADE BLOCK_DIAGONAL( LOWER(
    CENTRE_TO( LOWER_MIDDLE_RIGHT UPPER( MIDDLE_RIGHT RIGHT ) ) LEFT_TO( LOWER_MIDDLE_RIGHT UPPER(
    CENTRE MIDDLE_RIGHT ) ) MIDDLE_LEFT_TO_UPPER( CENTRE MIDDLE_RIGHT RIGHT ) )
    UPPER_MIDDLE_LEFT_TO_UPPER( CENTRE RIGHT ) ) SHADOWED_WHITE( CIRCLE SQUARE ) ) THREE(
    EIGHTHS/QUARTERS( BLOCK ) ) ) LOZENGE=( DIVIDED_BY_HORIZONTAL_RULE ) LYCIAN_LETTER( A AN B BH
    D E EN G H I J K KK L M MM N NN P Q R S T TH TT U W X Z ) LYDIAN( TRIANGULAR_MARK LETTER( A AN
    B C D E EN F G I K L LY M N NN O Q R S SS T TT U V Y ) )"),
  ('M', "MACRON MAGE MAGIC_WAND MAGNET MALTESE_CROSS MAMMOTH MANGO MANS_SHOE MANTELPIECE_CLOCK
    MAPLE_LEAF MAP_SYMBOL_FOR_LIGHTHOUSE MARTIAL_ARTS_UNIFORM MASCULINE_ORDINAL_INDICATOR
    MASK_WORK_SYMBOL MASU_MARK MATE_DRINK MAXIMIZE MEAT_ON_BONE MELON MEMO
    MENORAH_WITH_NINE_BRANCHES MERCURY MERPERSON MESSAGE_WAITING METRO MICROBE MICROPHONE
    MICROSCOPE MIDLINE_HORIZONTAL_ELLIPSIS MILKY_WAY MINIBUS MINIDISC MINIMIZE MINY MMSP MODELS
    MODERN_PENTATHLON MODULO_TWO_SUM MONORAIL MOOD_BUBBLE MOSQUE MOSQUITO MOTHER_CHRISTMAS
    MOTORWAY MOUNT_FUJI MOUTH MOVIE_CAMERA MOYAI MULTIMAP MULTIPLE_MUSICAL_NOTES MUSHROOM MVS MW
    MAHAJANI( ABBREVIATION_SIGN LIGATURE_SHRI SECTION_MARK SIGN_NUKTA LETTER( A BA BHA CA CHA DA
    DDA DDHA DHA E GA GHA HA I JA JHA KA KHA LA MA NA NNA NYA O PA PHA RA RRA SA TA THA TTA TTHA U
    VA ) ) MAHJONG_TILE( AUTUMN BACK BAMBOO CHRYSANTHEMUM JOKER ORCHID PLUM SPRING SUMMER WINTER
    EAST/NORTH/SOUTH/WEST( WIND ) EIGHT/FIVE/FOUR/NINE/ONE/SEVEN/SIX/THREE/TWO( OF( BAMBOOS
    CHARACTERS CIRCLES ) ) GREEN/RED/WHITE( DRAGON ) ) MAKASAR( ANGKA END_OF_SECTION PASSIMBANG
    LETTER( A BA CA DA GA JA KA LA MA NA NGA NYA PA RA SA TA VA YA ) VOWEL_SIGN( E I O U ) )
    MALAYALAM( AU_LENGTH_MARK DATE_MARK DIGIT( EIGHT FIVE FOUR NINE ONE SEVEN SIX THREE TWO ZERO )
    FRACTION( ONE( EIGHTH FIFTH FORTIETH HALF ONE-HUNDRED-AND-SIXTIETH QUARTER SIXTEENTH TENTH
    TWENTIETH ) THREE( EIGHTIETHS QUARTERS SIXTEENTHS TWENTIETHS ) ) LETTER( A AA AI ARCHAIC_II AU
    BA BHA CA CHA DA DDA DDHA DHA DOT_REPH E EE GA GHA HA I II JA JHA KA KHA LA LLA LLLA MA NA NGA
    NNA NNNA NYA O OO PA PHA RA RRA SA SHA SSA TA THA TTA TTHA TTTA U UU VA VEDIC_ANUSVARA YA
    CHILLU( K L LL LLL M N NN RR Y ) VOCALIC( L LL R RR ) ) NUMBER( TEN ONE( HUNDRED THOUSAND ) )
    SIGN( ANUSVARA AVAGRAHA CANDRABINDU CIRCULAR_VIRAMA COMBINING_ANUSVARA_ABOVE PARA
    VERTICAL_BAR_VIRAMA VIRAMA VISARGA ) VOWEL_SIGN( AA AI AU E EE I II O OO U UU VOCALIC( L LL R
    RR ) ) ) MALE( AND_FEMALE_SIGN SIGN WITH_STROKE( AND_MALE_AND_FEMALE_SIGN SIGN ) ) MAN=(
    AND_WOMAN_HOLDING_HANDS DANCING IN( BUSINESS_SUIT_LEVITATING TUXEDO ) WITH( GUA_PI_MAO TURBAN
    ) ) MANAT/MICRO/MILL/MINUS-OR-PLUS( SIGN ) MANDAIC( PUNCTUATION
    AFFRICATION/GEMINATION/VOCALIZATION( MARK ) LETTER( AB AD AG AH AIN AK AKSA AL AM AN AP AQ AR
    AS ASH ASZ AT ATT AZ DUSHENNA HALQA IN IT KAD USHENNA ) ) MANICHAEAN( SIGN_UD
    ABBREVIATION_MARK( ABOVE BELOW ) LETTER( AAYIN ALEPH AYIN BETH BHETH DALETH DHAMEDH FE GHIMEL
    GIMEL HE HETH JAYIN JHAYIN KAPH KHAPH LAMEDH MEM NUN PE QHOPH QOPH RESH SADHE SAMEKH SHIN
    SSHIN TAW TETH THAMEDH WAW XAPH XOPH YODH ZAYIN ZHAYIN ) NUMBER( FIVE TEN TWENTY ONE=( HUNDRED
    ) ) PUNCTUATION( DOUBLE_DOT_WITHIN_DOT FLEURON LINE_FILLER STAR TWO_DOTS DOT=( WITHIN_DOT ) )
    ) MANUAL/MOTORIZED( WHEELCHAIR ) MARCHEN( HEAD_MARK MARK_SHAD LETTER( -A A BA CA CHA DA DZA GA
    HA JA KA KHA LA MA NA NGA NYA PA PHA RA SA SHA TA THA TSA TSHA WA YA ZA ZHA ) SIGN( ANUSVARA
    CANDRABINDU ) SUBJOINED_LETTER( A BA CA CHA DA DZA GA HA JA KA KHA LA MA NA NGA NYA PA PHA RA
    SA SHA TA THA TSA TSHA WA YA ZA ZHA ) VOWEL_SIGN( AA E I O U ) ) MARRIAGE/MENS/MONOSTABLE(
    SYMBOL ) MASARAM_GONDI( RA-KARA REPHA VIRAMA DIGIT( EIGHT FIVE FOUR NINE ONE SEVEN SIX THREE
    TWO ZERO ) LETTER( A AA AI AU BA BHA CA CHA DA DDA DDHA DHA E GA GHA HA I II JA JHA JNYA KA
    KHA KSSA LA LLA MA NA NGA NNA NYA O PA PHA RA SA SHA SSA TA THA TRA TTA TTHA U UU VA YA )
    SIGN( ANUSVARA CANDRA HALANTA NUKTA VISARGA ) VOWEL_SIGN( AA AI AU E I II O U UU VOCALIC_R ) )
    MATHEMATICAL( BOLD( NABLA PARTIAL_DIFFERENTIAL CAPITAL( A ALPHA B BETA C CHI D DELTA DIGAMMA E
    EPSILON ETA F G GAMMA H I IOTA J K KAPPA L LAMDA M MU N NU O OMEGA OMICRON P PHI PI PSI Q R
    RHO S SIGMA T TAU U UPSILON V W X XI Y Z ZETA THETA=( SYMBOL ) ) DIGIT( EIGHT FIVE FOUR NINE
    ONE SEVEN SIX THREE TWO ZERO ) EPSILON/KAPPA/PHI/PI/RHO/THETA( SYMBOL ) FRAKTUR/SCRIPT(
    CAPITAL/SMALL( A B C D E F G H I J K L M N O P Q R S T U V W X Y Z ) ) ITALIC( NABLA
    PARTIAL_DIFFERENTIAL CAPITAL( A ALPHA B BETA C CHI D DELTA E EPSILON ETA F G GAMMA H I IOTA J
    K KAPPA L LAMDA M MU N NU O OMEGA OMICRON P PHI PI PSI Q R RHO S SIGMA T TAU U UPSILON V W X
    XI Y Z ZETA THETA=( SYMBOL ) ) EPSILON/KAPPA/PHI/PI/RHO/THETA( SYMBOL ) SMALL( A ALPHA B BETA
    C CHI D DELTA E EPSILON ETA F FINAL_SIGMA G GAMMA H I IOTA J K KAPPA L LAMDA M MU N NU O OMEGA
    OMICRON P PHI PI PSI Q R RHO S SIGMA T TAU THETA U UPSILON V W X XI Y Z ZETA ) ) SMALL( A
    ALPHA B BETA C CHI D DELTA DIGAMMA E EPSILON ETA F FINAL_SIGMA G GAMMA H I IOTA J K KAPPA L
    LAMDA M MU N NU O OMEGA OMICRON P PHI PI PSI Q R RHO S SIGMA T TAU THETA U UPSILON V W X XI Y
    Z ZETA ) ) DOUBLE-STRUCK( CAPITAL( A B D E F G I J K L M O S T U V W X Y ) DIGIT( EIGHT FIVE
    FOUR NINE ONE SEVEN SIX THREE TWO ZERO ) SMALL( A B C D E F G H I J K L M N O P Q R S T U V W
    X Y Z ) ) FALLING/RISING( DIAGONAL ) FRAKTUR( CAPITAL( A B D E F G J K L M N O P Q S T U V W X
    Y ) SMALL( A B C D E F G H I J K L M N O P Q R S T U V W X Y Z ) ) ITALIC( NABLA
    PARTIAL_DIFFERENTIAL CAPITAL( A ALPHA B BETA C CHI D DELTA E EPSILON ETA F G GAMMA H I IOTA J
    K KAPPA L LAMDA M MU N NU O OMEGA OMICRON P PHI PI PSI Q R RHO S SIGMA T TAU U UPSILON V W X
    XI Y Z ZETA THETA=( SYMBOL ) ) EPSILON/KAPPA/PHI/PI/RHO/THETA( SYMBOL ) SMALL( A ALPHA B BETA
    C CHI D DELTA E EPSILON ETA F FINAL_SIGMA G GAMMA I IOTA J K KAPPA L LAMDA M MU N NU O OMEGA
    OMICRON P PHI PI PSI Q R RHO S SIGMA T TAU THETA U UPSILON V W X XI Y Z ZETA DOTLESS( I J ) )
    ) LEFT/RIGHT( ANGLE_BRACKET DOUBLE_ANGLE_BRACKET FLATTENED_PARENTHESIS WHITE( SQUARE_BRACKET
    TORTOISE_SHELL_BRACKET ) ) MONOSPACE( CAPITAL/SMALL( A B C D E F G H I J K L M N O P Q R S T U
    V W X Y Z ) DIGIT( EIGHT FIVE FOUR NINE ONE SEVEN SIX THREE TWO ZERO ) ) SANS-SERIF( BOLD(
    NABLA PARTIAL_DIFFERENTIAL CAPITAL( A ALPHA B BETA C CHI D DELTA E EPSILON ETA F G GAMMA H I
    IOTA J K KAPPA L LAMDA M MU N NU O OMEGA OMICRON P PHI PI PSI Q R RHO S SIGMA T TAU U UPSILON
    V W X XI Y Z ZETA THETA=( SYMBOL ) ) DIGIT( EIGHT FIVE FOUR NINE ONE SEVEN SIX THREE TWO ZERO
    ) EPSILON/KAPPA/PHI/PI/RHO/THETA( SYMBOL ) ITALIC( NABLA PARTIAL_DIFFERENTIAL CAPITAL( A ALPHA
    B BETA C CHI D DELTA E EPSILON ETA F G GAMMA H I IOTA J K KAPPA L LAMDA M MU N NU O OMEGA
    OMICRON P PHI PI PSI Q R RHO S SIGMA T TAU U UPSILON V W X XI Y Z ZETA THETA=( SYMBOL ) )
    EPSILON/KAPPA/PHI/PI/RHO/THETA( SYMBOL ) SMALL( A ALPHA B BETA C CHI D DELTA E EPSILON ETA F
    FINAL_SIGMA G GAMMA H I IOTA J K KAPPA L LAMDA M MU N NU O OMEGA OMICRON P PHI PI PSI Q R RHO
    S SIGMA T TAU THETA U UPSILON V W X XI Y Z ZETA ) ) SMALL( A ALPHA B BETA C CHI D DELTA E
    EPSILON ETA F FINAL_SIGMA G GAMMA H I IOTA J K KAPPA L LAMDA M MU N NU O OMEGA OMICRON P PHI
    PI PSI Q R RHO S SIGMA T TAU THETA U UPSILON V W X XI Y Z ZETA ) ) CAPITAL/SMALL( A B C D E F
    G H I J K L M N O P Q R S T U V W X Y Z ) DIGIT( EIGHT FIVE FOUR NINE ONE SEVEN SIX THREE TWO
    ZERO ) ITALIC( CAPITAL/SMALL( A B C D E F G H I J K L M N O P Q R S T U V W X Y Z ) ) )
    SCRIPT( CAPITAL( A C D G J K N O P Q S T U V W X Y Z ) SMALL( A B C D F H I J K L M N P Q R S
    T U V W X Y Z ) ) ) MAYAN_NUMERAL( EIGHT EIGHTEEN ELEVEN FIFTEEN FIVE FOUR FOURTEEN NINE
    NINETEEN ONE SEVEN SEVENTEEN SIX SIXTEEN TEN THIRTEEN THREE TWELVE TWO ZERO ) MEASURED( BY
    RIGHT_ANGLE_WITH_DOT ANGLE=( OPENING_LEFT WITH_OPEN_ARM_ENDING_IN_ARROW_POINTING( DOWN/UP(
    AND( LEFT RIGHT ) ) LEFT/RIGHT( AND( DOWN UP ) ) ) ) ) MECHANICAL( ARM LEG ) MEDEFAIDRIN(
    COMMA EXCLAMATION_OH FULL_STOP SYMBOL_AIVA CAPITAL/SMALL( LETTER( A AI ATIU B C D E F G H HP I
    J K KP L M N NG NY O OE P Q R S T U V W X Y YU Z ) ) DIGIT( EIGHT FIVE FOUR NINE SEVEN SIX
    ZERO ONE/THREE/TWO=( ALTERNATE_FORM ) ) NUMBER( EIGHTEEN ELEVEN FIFTEEN FOURTEEN NINETEEN
    SEVENTEEN SIXTEEN TEN THIRTEEN TWELVE ) ) MEDIEVAL( COMMA EXCLAMATION/QUESTION( MARK ) )
    MEDIUM( BLACK_CIRCLE FIVE_SPOKED_ASTERISK GREEK_CROSS MATHEMATICAL_SPACE SALTIRE SHADE
    VERTICAL_BAR BOLD/SMALL( WHITE_CIRCLE ) EIGHT/SIX( POINTED_BLACK_STAR SPOKED_ASTERISK )
    FLATTENED( LEFT/RIGHT( PARENTHESIS_ORNAMENT ) ) FOUR/THREE( POINTED( BLACK/PINWHEEL( STAR ) )
    ) LEFT/RIGHT( CURLY_BRACKET_ORNAMENT PARENTHESIS_ORNAMENT ) LEFT-POINTING/RIGHT-POINTING(
    ANGLE_BRACKET_ORNAMENT ) WHITE( CIRCLE SQUARE ) ) MEETEI_MAYEK( AHANG_KHUDAM ANJI CHEIKHAN
    CHEIKHEI VIRAMA APUN/LUM( IYEK ) DIGIT( EIGHT FIVE FOUR NINE ONE SEVEN SIX THREE TWO ZERO )
    LETTER( ATIYA BA BHAM CHA CHIL DDA DDHA DHOU DIL E GHOU GOK HUK JHAM JIL KHOU NNA NYA O PHAM
    RAI SAM SHA SSA THOU TTA TTHA UN WAI YANG I/KOK/LAI/MIT/NA/NGOU/PA/TIL=( LONSUM ) )
    SYLLABLE/WORD( REPETITION_MARK ) VOWEL_SIGN( AAI AAU ANAP AU CHEINAP II INAP NUNG ONAP SOUNAP
    UNAP UU VISARGA YENAP ) ) MELTING/MONEY-MOUTH( FACE ) MENDE_KIKAKUI( COMBINING_NUMBER(
    HUNDREDS MILLIONS TEENS TENS THOUSANDS HUNDRED/TEN( THOUSANDS ) ) DIGIT( EIGHT FIVE FOUR NINE
    ONE SEVEN SIX THREE TWO ) SYLLABLE( M001_KI M002_KA M003_KU M004_WI M005_WA M006_WU M007_MIN
    M008_MAN M009_MUN M010_BI M011_BA M012_BU M013_I M014_A M015_U M016_DI M017_DA M018_DU M019_SI
    M020_SA M021_SU M022_TI M023_TA M024_TU M025_LI M026_LA M027_LU M028_JI M029_JA M030_JU
    M031_YI M032_YA M033_YU M034_FI M035_FA M036_FU M037_NIN M038_NAN M039_NUN M040_HEE M041_HA
    M042_HOO M043_NGGA M044_KPEE M045_WO M046_HUAN M048_KO M049_WVA M050_PU M051_PE M052_HEN
    M053_HIN M054_LOO M055_TE M056_GBA M057_NGON M058_NYAN M059_MEN M060_NYON M061_WVI M062_MBA
    M063_JO M064_NDO M065_KEE M066_PO M067_NDOO M068_PI M069_TO M070_GBO M071_GBOO M072_MBE
    M073_LE M074_KPU M075_FE M076_KOO M077_VO M078_FEE M079_SO M080_YE M081_PEE M082_NGGU
    M083_HEEI M084_LEE M085_VE M086_LONG_NGGE M087_HUN M088_FO M089_DEE M090_NGGI M091_TEE
    M092_KPA M093_GBEE M094_MON M095_KE M096_HE M097_BE M098_NYEN M099_PA M100_E M101_FAN M102_POO
    M103_BOO M104_TOO M105_LONG_MBOO M106_LONG_NGGOO M107_GBE M108_KPE M109_YEE M110_LONG_LE
    M111_GA M112_KPOO M113_JE M114_WOO M115_NGGEE M116_SE M117_NEN M118_WE M119_NDE M120_NGGO
    M121_YO M122_MBU M123_NDI M124_GBI M125_NDU M126_WEE M127_NGGUA M128_HOOU M129_NDA M130_HAN
    M132_KPI M133_FOO M134_NJOO M136_SOO M137_EI M138_BO M139_WVE M140_HO M141_YOO M142_LONG_MBO
    M143_WEI M144_VOO M145_MBI M146_NGGE M147_O M148_GBU M149_NJEE M150_BEE M151_VU M152_NJA
    M153_LO M154_MUAN M155_GI M156_NGGOO M157_JEE M158_KPO M159_NGGAA M160_JOO M161_LONG_MBE
    M162_SEE M163_EE M164_NYIN M165_OO M166_GUEI M167_GUAN M168_GU M169_NON M170_NYUN M171_RA
    M172_MBOO M173_VEE M174_MBO M175_LONG_JO M176_HI M177_NGUAN M178_EN M179_KUA M180_DOO M181_DO
    M182_VI M183_LONG_NGGO M184_NGEN M185_VA M186_HU M187_MBUU M189_MUEN M190_GEE M191_NDEE
    M192_NJU M193_HON M194_WUI M195_AN M196_SIA M197_FUA M047/M188( MBEE ) M131/M135( IN ) ) )
    MEROITIC( CURSIVE( FRACTION( EIGHT/ELEVEN/FIVE/FOUR/NINE/SEVEN/SIX/TEN/THREE/TWO( TWELFTHS )
    ONE( HALF TWELFTH ) ) LETTER( A ARCHAIC_SA BA DA E HHA I KA KHA LA MA NA NE O PA QA RA SA SE
    TA TE TO WA YA ) LOGOGRAM( IMN RMT ) NUMBER( EIGHT/FIVE/FOUR/NINE/ONE/SEVEN/SIX/THREE/TWO=(
    THOUSAND HUNDRED=( THOUSAND ) ) EIGHTY/NINETY( THOUSAND )
    FIFTY/FORTY/SEVENTY/SIXTY/TEN/THIRTY/TWENTY=( THOUSAND ) ) ) HIEROGLYPHIC( LETTER( A BA BA-2
    DA E HHA I KA KHA LA MA NA NA-2 NE NE-2 O PA QA RA RA-2 SA SA-2 SE TA TA-2 TE TE-2 TO WA YA )
    SYMBOL( VIDJ VIDJ-2 ) ) ) METRICAL( BREVE PENTASEME SHORT_OVER_LONG TETRASEME TRISEME
    LONG_OVER( SHORT TWO_SHORTS ) TWO_SHORTS( JOINED OVER_LONG ) ) MIAO( LETTER( AH BA BRI DA DDA
    DLHA DLHYA DZA DZHA DZYI DZZA FA GA GHA GHHA HA HHA KA LA LHA LHYA LYA MA MHA NA NASALIZATION
    NGA NGHA NHA NNA NNHA NYA NYHA PA PLA QA QGA RTE SA SHA SSA SYI TA TE TLHA TLHYA TONE-2:8 TSA
    TSE TSHA TSSA TTA VA VFA WA XA ZA ZHA ZSA ZSHA ZZA ZZSA ZZSYA ZZYA ARCHAIC( MA NA NGA ZZA )
    REFORMED( TONE-1 TONE-2 TONE-4:6 TONE-8 TSHA ) YI( DZHA KA NNA PA TA TSA TSHA TTA ) ) SIGN(
    ASPIRATION CONSONANT_MODIFIER_BAR REFORMED( ASPIRATION VOICING ) ) TONE( ABOVE BELOW RIGHT
    TOP_RIGHT ) VOWEL_SIGN( A AA AE AEE AHH AI AN ANG AU E EA EI EN ENG ER ERR I IA IAN IANG IE IG
    II ING IO IONG IU N NG O OER OEY OG OO OU U UA UAN UANG UEI UI UNG UOG UU VW W WO Y YI YUI
    ROUNDED( ER ERR ) ) ) MICR( DASH_SYMBOL ON_US_SYMBOL ) MIDDLE( DOT
    THIRD_WHITE_RIGHT_POINTING_INDEX ) MILITARY( HELMET MEDAL ) MINUS( TILDE SIGN=( IN_TRIANGLE
    WITH( COMMA_ABOVE DOT_BELOW FALLING/RISING( DOTS ) ) ) ) MIRROR=( BALL ) MOBILE_PHONE=( OFF
    WITH_RIGHTWARDS_ARROW_AT_LEFT ) MODI( ABBREVIATION_SIGN DANDA DOUBLE_DANDA DIGIT( EIGHT FIVE
    FOUR NINE ONE SEVEN SIX THREE TWO ZERO ) LETTER( A AA AI AU BA BHA CA CHA DA DDA DDHA DHA E GA
    GHA HA I II JA JHA KA KHA LA LLA MA NA NGA NNA NYA O PA PHA RA SA SHA SSA TA THA TTA TTHA U UU
    VA YA VOCALIC( L LL R RR ) ) SIGN( ANUSVARA ARDHACANDRA HUVA VIRAMA VISARGA ) VOWEL_SIGN( AA
    AI AU E I II O U UU VOCALIC( L LL R RR ) ) ) MODIFIER( BREVE_WITH_INVERTED_BREVE LETTER(
    APOSTROPHE COLON GEORGIAN_NAR HALF_TRIANGULAR_COLON LOWER_RIGHT_CORNER_ANGLE MACRON OPEN_SHELF
    PRIME RETROFLEX_CLICK_WITH_RETROFLEX_HOOK RHOTIC_HOOK SHELF SHORT_EQUALS_SIGN TRIANGULAR_COLON
    TURNED_COMMA UNASPIRATED US VERTICAL_LINE VOICING ACUTE/CIRCUMFLEX/CROSS/GRAVE( ACCENT )
    ALVEOLAR/BILABIAL/DENTAL/LATERAL( CLICK ) BEGIN/END( HIGH/LOW( TONE ) ) CAPITAL( A AE B
    BARRED_B C D E F G I J K L M N O OU P Q R T U V W H=( WITH_STROKE ) REVERSED( E N ) ) CENTRED(
    LEFT/RIGHT( HALF_RING ) ) CHINESE_TONE( YANG/YIN( PING QU RU SHANG ) ) CYRILLIC( EN HARD/SOFT(
    SIGN ) ) DOT( SLASH HORIZONTAL/VERTICAL( BAR ) ) DOUBLE( APOSTROPHE PRIME ) DOWN/UP( ARROWHEAD
    TACK ) EXTRA-HIGH/EXTRA-LOW/HIGH/MID( LEFT-STEM_TONE_BAR TONE_BAR DOTTED( LEFT-STEM_TONE_BAR
    TONE_BAR ) ) GLOTTAL_STOP=( WITH_STROKE ) LEFT/RIGHT( ARROWHEAD HALF_RING TACK ) LOW(
    INVERTED_EXCLAMATION_MARK LEFT-STEM_TONE_BAR MACRON RING TILDE TONE_BAR VERTICAL_LINE
    ACUTE/CIRCUMFLEX/GRAVE( ACCENT ) DOTTED( LEFT-STEM_TONE_BAR TONE_BAR ) DOWN/RIGHT/UP(
    ARROWHEAD ) LEFT( ARROW ARROWHEAD ) ) MIDDLE( GRAVE_ACCENT DOUBLE( ACUTE/GRAVE( ACCENT ) ) )
    MINUS/PLUS( SIGN ) RAISED( COLON EXCLAMATION_MARK INVERTED_EXCLAMATION_MARK DOWN/UP( ARROW ) )
    REVERSED( COMMA GLOTTAL_STOP=( WITH_STROKE ) ) SMALL( A AE AIN ALPHA BARRED_O BETA CHI DELTA E
    ENG ESH ETH EZH F GAMMA IOTA I_WITH_STROKE K LIGATURE_OE P PHI Q RAMS_HORN SCHWA SCRIPT_G
    SIDEWAYS_U TC_DIGRAPH_WITH_CURL THETA UPSILON W X Y B/G/HENG/M=( WITH_HOOK ) BOTTOM/TOP(
    HALF_O ) C=( WITH_CURL ) CAPITAL( AA B H INVERTED_R N OE R U Y G=( WITH_HOOK ) I=( WITH_STROKE
    ) L=( WITH_BELT ) ) CLOSED( OMEGA REVERSED_OPEN_E ) D=( WITH( TAIL HOOK=( AND_TAIL ) ) )
    DEZH/FENG/LS/LZ/TESH( DIGRAPH ) DOTLESS_J_WITH_STROKE=( AND_HOOK ) DZ_DIGRAPH=( WITH( CURL
    RETROFLEX_HOOK ) ) GREEK( GAMMA PHI ) H=( WITH( HOOK STROKE ) ) J=( WITH_CROSSED-TAIL ) L=(
    WITH( BELT INVERTED_LAZY_S MIDDLE_TILDE PALATAL_HOOK RETROFLEX_HOOK=( AND_BELT ) ) ) LEZH=(
    WITH_RETROFLEX_HOOK ) N_WITH( LEFT/RETROFLEX( HOOK ) ) O=( WITH_STROKE ) OPEN( E O ) R=( WITH(
    FISHHOOK TAIL ) ) REVERSED( E GLOTTAL_STOP OPEN_E ) S=( WITH( CURL HOOK ) ) T=( WITH(
    PALATAL/RETROFLEX( HOOK ) ) ) TS_DIGRAPH=( WITH_RETROFLEX_HOOK ) TURNED( A AE ALPHA H I OPEN_E
    V W M=( WITH_LONG_LEG ) R=( WITH( HOOK LONG_LEG=( AND_RETROFLEX_HOOK ) ) ) Y=( WITH_BELT ) )
    U=( BAR WITH_LEFT_HOOK ) V=( WITH( HOOK RIGHT_HOOK ) ) Z=( WITH( CURL RETROFLEX_HOOK ) ) )
    STRESS_AND( HIGH/LOW( TONE ) ) SUPERSCRIPT( HALF_TRIANGULAR_COLON TRIANGULAR_COLON ) YANG/YIN(
    DEPARTING_TONE_MARK ) ) ) MONEY( BAG WITH_WINGS ) MONGOLIAN( COLON COMMA ELLIPSIS FOUR_DOTS
    FULL_STOP NIRUGU SIBE_SYLLABLE_BOUNDARY_MARKER TODO_SOFT_HYPHEN
    TURNED_SWIRL_BIRGA_WITH_DOUBLE_ORNAMENT VOWEL_SEPARATOR BIRGA=( WITH( DOUBLE_ORNAMENT ORNAMENT
    ) ) DIGIT( EIGHT FIVE FOUR NINE ONE SEVEN SIX THREE TWO ZERO ) DOUBLE/TRIPLE(
    BIRGA_WITH_ORNAMENT ) FREE_VARIATION_SELECTOR( FOUR ONE THREE TWO ) INVERTED_BIRGA=(
    WITH_DOUBLE_ORNAMENT ) LETTER( A ANG BA CHI DA E EE FA GA HAA I JA KA KHA LA LHA MA NA O OE PA
    QA RA SA SHA TA TSA U UE WA YA ZA ZHI ZRA ALI_GALI( A AH BALUDA CA DA DAGALGA DAMARU DDA I
    INVERTED_UBADAMA KA NGA NNA PA PHA SSA TA THREE_BALUDA TTA TTHA UBADAMA ZA ZHA
    ANUSVARA/VISARGA( ONE ) HALF( U YA ) ) CHA=( WITH_TWO_DOTS ) MANCHU( FA I KA RA ZHA ALI_GALI(
    BHA CA CYA DDHA DHA GHA JHA LHA NGA SSA TA TTA ZA ZHA ) ) SIBE( ANG CHA DA E FA GA GAA HA HAA
    I IY JA KA PA RAA SHA TA TSA U UE ZA ZHA ) TODO( ANG BA CHA DA DZA E GA GAA HAA I JA JIA KA
    LONG_VOWEL_SIGN MA NIA O OE PA QA TA TSA U UE WA YA ALI_GALI( TA ZHA ) ) ) MANCHU( COMMA
    FULL_STOP ) ROTATED/SWIRL( BIRGA=( WITH( DOUBLE_ORNAMENT ORNAMENT ) ) ) ) MONKEY=( FACE )
    MONOGRAM_FOR( EARTH YANG YIN ) MOON( CAKE VIEWING_CEREMONY ) MOTOR( BOAT SCOOTER ) MOUNTAIN=(
    BICYCLIST CABLEWAY RAILWAY ) MOUSE=( FACE TRAP ) MRO( DANDA DOUBLE_DANDA DIGIT( EIGHT FIVE
    FOUR NINE ONE SEVEN SIX THREE TWO ZERO ) LETTER( A BA CHU DA DAI E EA HAI HAO KEAAE KHAI KO LA
    LAN MAEM MIM NGI NIN O OL OO PA PHI RI RO SHI TA TEK THEA WA YO ) ) MUCH( GREATER-THAN
    LESS-THAN ) MULTANI( SECTION_MARK LETTER( A BA BHA CA CHA DA DDA DDDA DDHA DHA E GA GHA HA I
    JA JJA KA KHA LA MA NA NNA NYA PA PHA RA RHA RRA SA TA THA TTA TTHA U VA YA ) )
    MULTIPLICATION( X SIGN=( IN( DOUBLE_CIRCLE TRIANGLE LEFT/RIGHT( HALF_CIRCLE ) ) WITH(
    DOT_ABOVE UNDERBAR ) ) ) MULTISET=( MULTIPLICATION UNION ) MUSIC( FLAT/NATURAL/SHARP( SIGN ) )
    MUSICAL( NOTE SCORE KEYBOARD=( WITH_JACKS ) SYMBOL( BRACE BRACKET BREATH_MARK BREVE CAESURA
    CIRCLE_X_NOTEHEAD CLIMACUS CLIVIS CODA CRESCENDO CROIX C_CLEF DAL_SEGNO DA_CAPO DECRESCENDO
    DEGREE_SLASH FORTE HAUPTSTIMME INVERTED_TURN KORON MAXIMA MEZZO MULTIPLE_MEASURE_REST
    MULTI_REST NEBENSTIMME NOTEHEAD_BLACK PES_SUBPUNCTIS PIANO PODATUS REPEAT_DOTS
    REVERSE_FINAL_BARLINE RINFORZANDO SEGNO SORI SUBITO TR VIRGA WITH_FINGERNAILS Z
    ARPEGGIATO/FLAT/GLISSANDO/NATURAL/SHARP( DOWN UP ) BEGIN( BEAM PHRASE SLUR TIE ) BREVIS=( REST
    ) CLUSTER/MOON( NOTEHEAD( BLACK WHITE ) ) COMBINING( ACCENT ACCENT-STACCATO AUGMENTATION_DOT
    BEND DOIT FLAG-1:5 FLIP HARMONIC LOURE MARCATO MARCATO-STACCATO RIP SMEAR SNAP_PIZZICATO
    SPRECHGESANG_STEM STACCATISSIMO STACCATO STEM TENUTO TREMOLO-1:3 DOUBLE/TRIPLE( TONGUE )
    DOWN/UP( BOW ) ) COMMON/CUT( TIME ) DAMP=( ALL ) DASHED/FINAL/SHORT/SINGLE( BARLINE ) DOUBLE(
    BARLINE FLAT SHARP ) DRUM( CLEF-1 CLEF-2 ) EIGHTH/SIXTEENTH/SIXTY-FOURTH/THIRTY-SECOND/WHOLE(
    NOTE REST ) END( BEAM OF_STIMME PHRASE SLUR TIE ) F/G( CLEF=( OTTAVA( ALTA BASSA ) ) )
    FERMATA=( BELOW ) FINGERED( TREMOLO-1:3 )
    FIVE-LINE/FOUR-LINE/ONE-LINE/SIX-LINE/THREE-LINE/TWO-LINE( STAFF ) FOUR-STRING/SIX-STRING(
    FRETBOARD ) FUSA( BLACK WHITE ) GRACE_NOTE( NO_SLASH SLASH ) GREGORIAN( C/F( CLEF ) ) HALF(
    NOTE PEDAL_MARK REST ) KIEVAN( C_CLEF END_OF_PIECE FLAT_SIGN RECITATIVE_MARK EIGHTH/QUARTER(
    NOTE_STEM( DOWN UP ) ) FINAL/HALF/WHOLE( NOTE ) ) LEFT/RIGHT( REPEAT_SIGN ) LONGA=(
    IMPERFECTA/PERFECTA( REST ) ) MINIMA=( BLACK REST ) NULL/PARENTHESIS/PLUS/VOID/X( NOTEHEAD )
    ONE_HUNDRED_TWENTY-EIGHTH( NOTE REST ) ORNAMENT( STROKE-10 STROKE-11 STROKE-1:9 )
    OTTAVA/QUINDICESIMA( ALTA BASSA ) PEDAL( MARK UP_MARK ) PORRECTUS/SCANDICUS=( FLEXUS )
    QUARTER( NOTE REST TONE( FLAT SHARP ) ) REPEATED( FIGURE-1:3 ) SEMIBREVIS/SEMIMINIMA( BLACK
    REST WHITE ) SQUARE( B NOTEHEAD( BLACK WHITE ) ) TEMPUS( IMPERFECTUM_CUM_PROLATIONE( PERFECTA
    IMPERFECTA=( DIMINUTION-1:3 ) ) PERFECTUM_CUM_PROLATIONE( IMPERFECTA PERFECTA=( DIMINUTION-1 )
    ) ) TORCULUS=( RESUPINUS ) TRIANGLE-ROUND_NOTEHEAD_DOWN( BLACK WHITE ) TRIANGLE_NOTEHEAD(
    DOWN/LEFT/RIGHT( BLACK WHITE ) UP( BLACK WHITE RIGHT( BLACK WHITE ) ) ) TURN=( SLASH UP ) ) )
    MYANMAR( CONSONANT_SIGN( SHAN_MEDIAL_WA MEDIAL( HA RA WA YA ) MON_MEDIAL( LA MA NA ) ) DIGIT(
    EIGHT FIVE FOUR NINE ONE SEVEN SIX THREE TWO ZERO ) LETTER( A AITON_RA AU BA BHA CA CHA DA DDA
    DDHA DHA E GA GHA GREAT_SA HA I II JA JHA KA KHA LA LLA MA NA NGA NNA NNYA NYA O PA PHA RA
    RUMAI_PALAUNG_FA SA SGAW_KAREN_SHA SHA SSA TA THA TTA TTHA U UU WA YA EASTERN_PWO_KAREN( GHWA
    NNA YWA ) KHAMTI( CA CHA DDA DDHA DHA FA GA HA HHA JA JHA LLA NA NYA RA SA TTA TTHA XA ZA )
    MON( BBA BBE E JHA NGA ) SHAN( A BA BHA CA CHA DA FA GA GHA HA JHA KA KHA NA NNA NYA PHA THA
    ZA ) SHWE_PALAUNG( CHA SHA ) TAI_LAING( BA BHA DA DDA DDHA DHA FA GA GHA JA JHA LLA NNA NYA )
    VOCALIC( L LL R RR ) WESTERN_PWO_KAREN( PWA THA ) ) LOGOGRAM_KHAMTI( HM OAY QN )
    MODIFIER_LETTER( KHAMTI/SHAN( REDUPLICATION ) ) SHAN_DIGIT( EIGHT FIVE FOUR NINE ONE SEVEN SIX
    THREE TWO ZERO ) SIGN( ANUSVARA ASAT DOT_BELOW LITTLE_SECTION PAO_KAREN_TONE
    RUMAI_PALAUNG_TONE-5 SECTION VIRAMA VISARGA KHAMTI( TONE-1 TONE-3 ) SHAN( SAW TONE-2 TONE-3
    TONE-5 TONE-6 COUNCIL( EMPHATIC_TONE TONE-2 TONE-3 ) ) TAI_LAING( TONE-2 TONE-5 )
    WESTERN_PWO_KAREN( TONE-1:5 ) ) SYMBOL( AFOREMENTIONED COMPLETED GENITIVE LOCATIVE AITON(
    EXCLAMATION ONE TWO ) SHAN( EXCLAMATION ONE ) ) TAI_LAING_DIGIT( EIGHT FIVE FOUR NINE ONE
    SEVEN SIX THREE TWO ZERO ) TONE_MARK_SGAW_KAREN( HATHI KE_PHO ) VOWEL_SIGN( AA AI GEBA_KAREN_I
    I II SGAW_KAREN_EU TALL_AA U UU AITON( A AI ) E=( ABOVE ) KAYAH( EE OE U ) MON( II O ) SHAN(
    AA FINAL_Y E=( ABOVE ) ) VOCALIC( L LL R RR ) WESTERN_PWO_KAREN( EU UE ) ) )"),
  ('N', "NABLA NAIL_POLISH NAK NAME_BADGE NAND NARROW_NO-BREAK_SPACE NAZAR_AMULET NBH NBSP NECKTIE
    NEGATED_DOUBLE_VERTICAL_BAR_DOUBLE_RIGHT_TURNSTILE NEL NESSUS NESTING_DOLLS NEST_WITH_EGGS
    NEUTER NEWSPAPER NIGHT_WITH_STARS NINJA NL NNBSP NO-BREAK_SPACE NOMINAL_DIGIT_SHAPES
    NON-BREAKING_HYPHEN NON-POTABLE_WATER_SYMBOL NONFORKING NOR NORDIC_MARK_SIGN
    NORTHEAST-POINTING_AIRPLANE NOSE NUL NULL NUSHU_ITERATION_MARK NUT_AND_BOLT N-ARY( COPRODUCT
    INTERSECTION PRODUCT SUMMATION TIMES_OPERATOR WHITE_VERTICAL_BAR CIRCLED( DOT/PLUS/TIMES(
    OPERATOR ) ) LOGICAL( AND OR ) SQUARE( INTERSECTION/UNION( OPERATOR ) ) UNION=( OPERATOR_WITH(
    DOT PLUS ) ) ) NABATAEAN( CRUCIFORM_NUMBER_FOUR LETTER( ALEPH AYIN BETH DALETH GIMEL HE HETH
    KAPH LAMEDH MEM NUN PE QOPH RESH SADHE SAMEKH SHIN TAW TETH WAW YODH ZAYIN FINAL( ALEPH BETH
    HE KAPH LAMEDH MEM NUN SHIN YODH ) ) NUMBER( FIVE FOUR TEN THREE TWENTY TWO ONE=( HUNDRED ) )
    ) NAIRA/NOMISMA/NUMERO( SIGN ) NANDINAGARI( HEADSTROKE LETTER( A AA AI AU BA BHA CA CHA DA DDA
    DDHA DHA E GA GHA HA I II JA JHA KA KHA LA LLA MA NA NGA NNA NYA O PA PHA RA RRA SA SHA SSA TA
    THA TTA TTHA U UU VA YA VOCALIC( R RR ) ) SIGN( ANUSVARA AVAGRAHA SIDDHAM VIRAMA VISARGA )
    VOWEL_SIGN( AA AI AU E I II O PRISHTHAMATRA_E U UU VOCALIC( R RR ) ) ) NATIONAL( DIGIT_SHAPES
    PARK ) NAUSEATED/NERD( FACE ) NEGATIVE( ACKNOWLEDGE CIRCLED( DIGIT_ZERO SQUARE TRIANGLE
    LATIN_CAPITAL_LETTER( A B C D E F G H I J K L M N O P Q R S T U V W X Y Z ) NUMBER( EIGHTEEN
    ELEVEN FIFTEEN FOURTEEN NINETEEN SEVENTEEN SIXTEEN THIRTEEN TWELVE TWENTY ) ) DIAGONAL( CROSS
    DIAMOND MIDDLE_RIGHT_TO_LOWER_CENTRE ) SQUARED( AB IC PA SA WC CROSS/QUESTION( MARK )
    LATIN_CAPITAL_LETTER( A B C D E F G H I J K L M N O P Q R S T U V W X Y Z ) ) ) NEITHER(
    APPROXIMATELY_NOR_ACTUALLY_EQUAL_TO A( SUBSET/SUPERSET( OF_NOR_EQUAL_TO ) ) GREATER-THAN_NOR(
    LESS-THAN EQUAL/EQUIVALENT( TO ) ) LESS-THAN_NOR( GREATER-THAN EQUAL/EQUIVALENT( TO ) ) )
    NEPTUNE=( FORM_TWO ) NEUTRAL( FACE CHESS( BISHOP/KING/PAWN/QUEEN/ROOK=( ROTATED(
    NINETY_DEGREES TWO_HUNDRED_SEVENTY_DEGREES ) ) EQUIHOPPER=( ROTATED_NINETY_DEGREES ) KNIGHT=(
    ROTATED( ONE_HUNDRED_THIRTY-FIVE_DEGREES THREE_HUNDRED_FIFTEEN_DEGREES FORTY-FIVE/NINETY(
    DEGREES ) TWO_HUNDRED( SEVENTY/TWENTY-FIVE( DEGREES ) ) ) ) TURNED( BISHOP KING KNIGHT PAWN
    QUEEN ROOK ) ) ) NEW( LINE SHEQEL_SIGN MOON( SYMBOL WITH_FACE ) TAI_LUE( THAM_DIGIT_ONE DIGIT(
    EIGHT FIVE FOUR NINE ONE SEVEN SIX THREE TWO ZERO ) LETTER( FINAL( B D K M N NG V ) HIGH/LOW(
    BA DA FA HA KA KVA LA MA NA NGA PA PHA QA SA SUA TA THA TSA VA XA XVA YA ) ) SIGN( LAE LAEV )
    TONE( MARK-1 MARK-2 ) VOWEL_SIGN( AA AAY AE AY E II IY O OA OAY OY U UE UEY UU UY
    VOWEL_SHORTENER ) ) ) NEWA( COMMA DANDA GAP_FILLER OM SIDDHI ABBREVIATION/INSERTION( SIGN )
    DIGIT( EIGHT FIVE FOUR NINE ONE SEVEN SIX THREE TWO ZERO ) DOUBLE( COMMA DANDA ) LETTER( A AA
    AI AU BA BHA CA CHA DA DDA DDHA DHA E GA GHA HA I II JA JHA KA KHA LA LHA MA MHA NA NGA NGHA
    NHA NNA NYA NYHA O PA PHA RA RHA SA SHA SSA TA THA TTA TTHA U UU VEDIC_ANUSVARA WA YA VOCALIC(
    L LL R RR ) ) PLACEHOLDER/SANDHI( MARK ) SIGN( ANUSVARA AVAGRAHA CANDRABINDU FINAL_ANUSVARA
    JIHVAMULIYA NUKTA UPADHMANIYA VIRAMA VISARGA ) VOWEL_SIGN( AA AI AU E I II O U UU VOCALIC( L
    LL R RR ) ) ) NEWLINE( LEFT RIGHT ) NEXT( LINE PAGE ) NKO( COMMA DANTAYALAN EXCLAMATION_MARK
    LAJANYALAN COMBINING( DOUBLE_DOT_ABOVE NASALIZATION_MARK LONG( DESCENDING/HIGH/LOW/RISING(
    TONE ) ) SHORT( HIGH/LOW/RISING( TONE ) ) ) DIGIT( EIGHT FIVE FOUR NINE ONE SEVEN SIX THREE
    TWO ZERO ) DOROME/TAMAN( SIGN ) HIGH/LOW( TONE_APOSTROPHE ) LETTER( A BA CHA DA DAGBASINNA E
    EE FA GBA HA I JA KA LA MA N O OO PA RA RRA SA TA U WA YA JONA( CHA JA RA ) NA/NYA=( WOLOSO )
    ) SYMBOL( GBAKURUNEN OO_DENNEN ) ) NO( BICYCLES BREAK_HERE MOBILE_PHONES
    ONE_UNDER_EIGHTEEN_SYMBOL PEDESTRIANS PIRACY SMOKING_SYMBOL ENTRY=( SIGN ) )
    NORMAL_SUBGROUP_OF=( OR_EQUAL_TO ) NORTH( EAST( AND_SOUTH_WEST_ARROW ARROW=(
    AND_SOUTH_EAST_ARROW WITH_HOOK CROSSING( NORTH_WEST_ARROW SOUTH_EAST_ARROW ) )
    BLACK/DOUBLE/SANS-SERIF/WHITE( ARROW ) POINTING( BUD LEAF VINE_LEAF ) TRIANGLE-HEADED_ARROW=(
    TO_BAR ) ) INDIC( FRACTION( ONE( EIGHTH HALF QUARTER SIXTEENTH ) THREE( QUARTERS SIXTEENTHS )
    ) PLACEHOLDER/QUANTITY/QUARTER/RUPEE( MARK ) ) WEST( AND_SOUTH_EAST_ARROW ARROW=( WITH_HOOK
    AND/CROSSING( NORTH_EAST_ARROW ) TO( CORNER LONG_BAR ) ) BLACK/DOUBLE/SANS-SERIF/WHITE( ARROW
    ) POINTING( BUD LEAF VINE_LEAF ) TRIANGLE-HEADED_ARROW=( TO_BAR ) ) ) NOT( AN_ELEMENT_OF
    CHECK_MARK GREATER-THAN LESS-THAN SIGN TILDE TRUE A( SUBSET/SUPERSET( OF ) )
    ALMOST/ASYMPTOTICALLY( EQUAL_TO ) EQUAL/EQUIVALENT/IDENTICAL/PARALLEL( TO )
    NORMAL_SUBGROUP_OF=( OR_EQUAL_TO ) SQUARE( IMAGE/ORIGINAL( OF_OR_EQUAL_TO ) ) ) NOTCHED(
    LEFT/RIGHT( SEMICIRCLE_WITH_THREE_DOTS ) LOWER/UPPER( RIGHT-SHADOWED_WHITE_RIGHTWARDS_ARROW )
    ) NOTE=( PAD PAGE ) NOTEBOOK=( WITH_DECORATIVE_COVER ) NUMBER( SIGN
    EIGHTEEN/ELEVEN/FIFTEEN/FOURTEEN/NINETEEN/SEVENTEEN/SIXTEEN/TEN/THIRTEEN/TWELVE/TWENTY(
    FULL_STOP ) ) NYIAKENG_PUACHUE_HMONG( CIRCLED_CA LOGOGRAM_NYAJ SYLLABLE_LENGTHENER TONE-B
    TONE-D TONE-G TONE-J TONE-M TONE-S TONE-V DIGIT( EIGHT FIVE FOUR NINE ONE SEVEN SIX THREE TWO
    ZERO ) LETTER( A AA CA DA DLA E EE FA GA HA HAH I KA LA MA MLA NA NCA NKA NPA NPLA NQA NRA NTA
    NTSA NTXA NYA O OO PA PLA QA RA RRA SA TA TSA TXA U VA W XA XYA YA ZA ) SIGN( XW_XW FOR(
    ANIMAL INVERTEBRATE LOCATION PERSON THING ) ) )"),
  ('O', "OBJECT_REPLACEMENT_CHARACTER OBSERVER_EYE_SYMBOL OCTOPUS ODEN OFFICE_BUILDING OGONEK OIL_DRUM
    OK_HAND_SIGN OLIVE OM_SYMBOL ONE-PIECE_SWIMSUIT ONION
    ON_WITH_EXCLAMATION_MARK_WITH_LEFT_RIGHT_ARROW_ABOVE OPEN-OUTLINED_RIGHTWARDS_ARROW
    OPERATING_SYSTEM_COMMAND OPHIUCHUS OPPOSITION OPTION_KEY ORANGUTAN ORIGINAL_OF ORTHODOX_CROSS
    OR_WITH_DOT_INSIDE OSC OTTER OUTBOX_TRAY OVERHEATED_FACE OVERLAP OVERLINE OWL OX OYSTER
    OBLIQUE( HYPHEN ANGLE_OPENING( DOWN UP ) ) OCR( AMOUNT_OF_CHECK BELT_BUCKLE BOW_TIE
    BRANCH_BANK_IDENTIFICATION CHAIR CUSTOMER_ACCOUNT_NUMBER DASH DOUBLE_BACKSLASH FORK HOOK
    INVERTED_FORK ) OCTAGONAL/OHM/OUNCE( SIGN ) OGHAM( REVERSED_FEATHER_MARK FEATHER/SPACE( MARK )
    LETTER( AILM BEITH CEIRT COLL DAIR EABHADH EADHADH EAMHANCHOLL FEARN GORT IFIN IODHADH LUIS
    MUIN NGEADAL NION ONN OR PEITH RUIS SAIL STRAIF TINNE UATH UILLEANN UR ) ) OLD( KEY
    PERSONAL_COMPUTER CHINESE( HOOK/ITERATION( MARK ) ) HUNGARIAN( CAPITAL/SMALL( LETTER( A AA AK
    AMB AND CLOSE_E E EB EC ECH ECS ED EE EF EG EGY EH EJ EK EL ELY EM EMP EN ENC ENT
    ENT-SHAPED_SIGN ENY EP ER ES ESZ ET ETY EV EZ EZS I II O OEE OO SHORT_ER U UNK US UU
    NIKOLSBURG/RUDIMENTA( OE UE ) ) ) NUMBER( FIFTY FIVE TEN ONE=( HUNDRED THOUSAND ) ) ) ITALIC(
    LETTER( A BE CHE DE E EF EKS EL EM EN ER ERS ES ESH ESS HE I II KA KE KHE KU O PE PHE SHE TE
    THE U UU VE YE ZE NORTHERN/SOUTHERN( TSE ) ) NUMERAL( FIFTY FIVE ONE TEN ) ) NORTH_ARABIAN(
    LETTER( AIN ALEF BEH DAD DAL ES-1:3 FEH GEEM GHAIN HAH HEH KAF KHAH LAM MEEM NOON QAF REH SAD
    TAH TEH THAL THEH WAW YEH ZAH ZAIN ) NUMBER( ONE TEN TWENTY ) ) PERMIC_LETTER( AN BUR CHERY
    DOI DZHOI DZITA E EF GAI HA I IA IE KOKE LEI MENOE NENOE O OO PEEI REI SHCHOOI SHOOI SII TAI
    TSIU U VER VOOI YA YAT YER YERI YERU YRY YU ZATA ZHOI ) PERSIAN( WORD_DIVIDER NUMBER( HUNDRED
    ONE TEN TWENTY TWO ) SIGN( A AURAMAZDAA AURAMAZDAA-2 AURAMAZDAAHA BA BAGA BUUMISH CA DA
    DAHYAAUSH DAHYAAUSH-2 DI DU FA GA GU HA I JA JI KA KU LA MA MI MU NA NU PA RA RU SA SHA SSA TA
    THA TU U VA VI XA XSHAAYATHIYA YA ZA ) ) SOGDIAN( FRACTION_ONE_HALF LIGATURE_AYIN-DALETH
    LETTER( ALEPH ALTERNATE_AYIN AYIN BETH GIMEL HE HETH KAPH LAMEDH MEM NUN PE RESH-AYIN-DALETH
    SADHE SAMEKH SHIN TAW WAW YODH ZAYIN FINAL( ALEPH BETH HE NUN/SADHE/TAW=( WITH_VERTICAL_TAIL )
    ) ) NUMBER( FIVE FOUR TEN THIRTY THREE TWENTY TWO ONE=( HUNDRED ) ) ) SOUTH_ARABIAN(
    NUMERIC_INDICATOR LETTER( ALEF AYN BETH DALETH DHADHE DHALETH FE GHAYN GIMEL HE HETH KAPH
    KHETH LAMEDH MEM NUN QOPH RESH SADHE SAMEKH SAT SHIN TAW TETH THAW THETH WAW YODH ZAYN )
    NUMBER( FIFTY ONE ) ) TURKIC_LETTER( ORKHON( A AB AD AEB AED AEG AEK AEL AEN AER AES AET AEY
    AG AL AN AQ AR AS ASH AT AY BASH EC ELT EM ENC ENG ENT ENY EP ESH EZ I IC IQ O OE OEK OP OQ OT
    ) YENISEI( A AB AD AE AEB AEG AEK AEN AENG AET AEY AG AL ANG AQ AR ASH AT AY E EC ENC ENT ENY
    ESH EZ I IQ OE OEK OQ ) ) UYGHUR( COMBINING( DOT( ABOVE BELOW ) TWO_DOTS( ABOVE BELOW ) )
    LETTER( ALEPH BETH FINAL_HETH GIMEL-HETH KAPH LAMEDH LESH MEM NUN PE RESH SADHE SAMEKH SHIN
    TAW WAW YODH ZAYIN ) PUNCTUATION( BAR FOUR_DOTS TWO( BARS DOTS ) ) ) ) OLDER( ADULT MAN WOMAN
    ) OL_CHIKI( AHAD MU_TTUDDAG PHAARKAA RELAA DIGIT( EIGHT FIVE FOUR NINE ONE SEVEN SIX THREE TWO
    ZERO ) GAAHLAA/MU-GAAHLAA( TTUDDAAG ) LETTER( AAJ AAK AAM AAW AG AL ANG AT EDD EN EP ERR IH
    INY IR IS LA LAA LE LI LO LU OB OH OTT OV UC UD UNN UY ) PUNCTUATION( DOUBLE_MUCAAD MUCAAD ) )
    ONCOMING( AUTOMOBILE BUS FIRE_ENGINE POLICE_CAR TAXI ) ONE( BUTTON_MOUSE DOT( LEADER
    OVER_TWO_DOTS_PUNCTUATION ) ) OPEN( BOOK BOX FILE_FOLDER FOLDER HANDS_SIGN LOCK SUBSET
    SUPERSET CENTRE( ASTERISK BLACK_STAR CROSS TEARDROP-SPOKED_ASTERISK ) MAILBOX_WITH(
    LOWERED/RAISED( FLAG ) ) ) OPEN-CIRCUIT-OUTPUT( H-TYPE/L-TYPE( SYMBOL ) ) OPTICAL_DISC=( ICON
    ) ORANGE( BOOK HEART ) ORIYA( ISSHAR AI/AU( LENGTH_MARK ) DIGIT( EIGHT FIVE FOUR NINE ONE
    SEVEN SIX THREE TWO ZERO ) FRACTION( ONE( EIGHTH HALF QUARTER SIXTEENTH ) THREE( QUARTERS
    SIXTEENTHS ) ) LETTER( A AA AI AU BA BHA CA CHA DA DDA DDHA DHA E GA GHA HA I II JA JHA KA KHA
    LA LLA MA NA NGA NNA NYA O PA PHA RA RHA RRA SA SHA SSA TA THA TTA TTHA U UU VA WA YA YYA
    VOCALIC( L LL R RR ) ) SIGN( ANUSVARA AVAGRAHA CANDRABINDU NUKTA OVERLINE VIRAMA VISARGA )
    VOWEL_SIGN( AA AI AU E I II O U UU VOCALIC( L LL R RR ) ) ) ORNATE( LEFT/RIGHT( PARENTHESIS )
    ) OSAGE( CAPITAL/SMALL( LETTER( A AH AI AIN BRA CHA DHA E EHCHA EHKA EHPA EHTA EHTSA EIN GHA
    HA HYA I KA KHA KYA LA MA NA O OIN PA SA SHA TA TSA TSHA U WA ZA ZHA ) ) ) OSMANYA( DIGIT(
    EIGHT FIVE FOUR NINE ONE SEVEN SIX THREE TWO ZERO ) LETTER( A AA ALEF BA CAYN DEEL DHA E EE FA
    GA HA I JA KAAF KHA LAAN MIIN NUUN O OO QAAF RA SA SHIIN TA U WAW XA YA ) ) OTTOMAN_SIYAQ(
    MARRATAN ALTERNATE_NUMBER( EIGHT FIVE NINE SEVEN THREE FOUR/SIX=( HUNDRED ) TEN/TWO=( THOUSAND
    ) ) FRACTION_ONE( HALF SIXTH ) NUMBER( EIGHT/FIVE/FOUR/NINE/ONE/SEVEN/SIX/THREE/TWO=( HUNDRED
    THOUSAND ) EIGHTY/FIFTY/FORTY/NINETY/SEVENTY/SIXTY/TEN/THIRTY/TWENTY=( THOUSAND ) ) )
    OUTLINED( BLACK/WHITE( STAR ) GREEK/LATIN( CROSS ) ) OVERLAPPING( BLACK_SQUARES WHITE(
    AND_BLACK_SQUARES SQUARES ) )"),
  ('P', "PACKAGE PAD PADDING_CHARACTER PAGER PAGES PAGODA PALLAS PALMS_UP_TOGETHER PANCAKES PAPERCLIP
    PARACHUTE PARAGRAPHOS PARAGRAPHUS_MARK PARAGRAPH_SEPARATOR PARROT
    PARTIALLY-RECYCLED_PAPER_SYMBOL PARTY_POPPER PART_ALTERNATION_MARK PASSENGER_SHIP
    PASSPORT_CONTROL PAW_PRINTS PDF PDI PEACH PEACOCK PEANUTS PEAR PEDESTRIAN PENCIL PENGUIN
    PENTAGRAM PEN_OVER_STAMPED_ENVELOPE PEOPLE_HUGGING PERFORMING_ARTS PERMANENT_PAPER_SIGN
    PERSONAL_COMPUTER PERSPECTIVE PETRI_DISH PHOLUS PICK PICKUP_TRUCK PIE PILE_OF_POO PILL PINATA
    PINCHED_FINGERS PINCHING_HAND PINEAPPLE PINE_DECORATION PINWHEEL_STAR PISCES PISTOL PLACARD
    PLAYGROUND_SLIDE PLD PLU PLUNGER PM POCKET_CALCULATOR POODLE POPCORN PORTABLE_STEREO POSEIDON
    POSITION_INDICATOR POSTBOX POTABLE_WATER_SYMBOL POTATO POTTED_PLANT POT_OF_FOOD POUCH
    POULTRY_LEG POURING_LIQUID PRAYER_BEADS PRESCRIPTION_TAKE PRETZEL PREVIOUS_PAGE PRIME PRINCE
    PRINCESS PRINT_SCREEN_SYMBOL PRIVACY_MESSAGE PROBING_CANE PROJECTIVE PROPERTY_LINE PROPORTION
    PROPORTIONAL_TO PROSERPINA PU1 PU2 PUBLIC_ADDRESS_LOUDSPEAKER PUNCTUATION_SPACE
    PUNCTUS_ELEVATUS_MARK PURPLE_HEART PURSE PUSHPIN PUT_LITTER_IN_ITS_PLACE_SYMBOL PAGE=(
    FACING_UP WITH( CIRCLED_TEXT CURL ) ) PAHAWH_HMONG( CLAN_SIGN( FAJ HAM HAWJ KHAB KOO KWM LAUJ
    LIS MUAS PHAB THOJ TSAB TSHEEJ TSWB VAJ VWJ XYOOJ YAJ YEEG ) CONSONANT( AU CAU CHAU HAU HLAU
    HNAU LAU MAU NAU NCHAU NKAU NLAU NTHAU NTSAU PLHAU QHAU RAU VAU XAU YAU ) DIGIT( EIGHT FIVE
    FOUR NINE ONE SEVEN SIX THREE TWO ZERO ) MARK_CIM( HOM KES KHAV SO SUAM TAUM TUB ) NUMBER(
    HUNDREDS HUNDRED_MILLIONS MILLIONS TENS TRILLIONS TEN( BILLIONS THOUSANDS ) ) SIGN( AV HLI
    HNUB IB_YAM LOS MUS NQIG NTUJ TAU THIRD-STAGE_HLI TXHEEJ_CEEV XAUS XIAB XYOO ZWJ_THAJ CIM(
    CHEEM CUAM_TSHOOJ HAIS_LUS_NTOG_NTOG NRES_TOS PUB_DAWB TSOV_ROG TXWV=( CHWV ) ) MEEJ( SUAB
    TSEEB ) VOS( FEEM LUB NRUA SEEV THIAB THOM TSHAB_CEEB ) XYEEM( FAIB NTXIV RHO TOV ) ) VOWEL(
    KAAB KAAV KAB KAIB KAIV KAUB KAUV KAV KAWB KAWV KEB KEEB KEEV KEV KIAB KIAV KIB KIV KOB KOOB
    KOOV KOV KUAB KUAV KUB KUV KWB KWV ) ) PALM( BRANCH TREE DOWN/UP( HAND ) ) PALMYRENE(
    LEFT-POINTING/RIGHT-POINTING( FLEURON ) LETTER( ALEPH AYIN BETH DALETH FINAL_NUN GIMEL HE HETH
    KAPH LAMEDH MEM NUN PE QOPH RESH SADHE SAMEKH SHIN TAW TETH WAW YODH ZAYIN ) NUMBER( FIVE FOUR
    ONE TEN THREE TWENTY TWO ) ) PANDA/PENSIVE/PERSEVERING( FACE ) PARALLEL( TO WITH(
    HORIZONTAL_STROKE TILDE_OPERATOR ) ) PARENTHESIZED( DIGIT( EIGHT FIVE FOUR NINE ONE SEVEN SIX
    THREE TWO ) HANGUL(
    CHIEUCH/HIEUH/IEUNG/KHIEUKH/KIYEOK/MIEUM/NIEUN/PHIEUPH/PIEUP/RIEUL/SIOS/THIEUTH/TIKEUT=( A )
    CIEUC=( A U ) ) IDEOGRAPH( ALLIANCE CALL CONGRATULATION EARTH EIGHT ENTERPRISE FESTIVAL
    FINANCIAL FIRE FIVE FOUR HAVE LABOR METAL MOON NAME NINE ONE REACH REPRESENT RESOURCE REST
    SELF SEVEN SIX SOCIETY SPECIAL STOCK STUDY SUN SUPERVISE TEN THREE TWO WATER WOOD )
    KOREAN_CHARACTER( OJEON O_HU ) LATIN( CAPITAL/SMALL( LETTER( A B C D E F G H I J K L M N O P Q
    R S T U V W X Y Z ) ) ) NUMBER( EIGHTEEN ELEVEN FIFTEEN FOURTEEN NINETEEN SEVENTEEN SIXTEEN
    TEN THIRTEEN TWELVE TWENTY ) ) PARTIAL( DIFFERENTIAL LINE( BACKWARD DOWN FORWARD UP ) )
    PARTNERSHIP/PERCENT/PESETA/PESO/PILCROW/PLUS-MINUS/POUND/PROHIBITED( SIGN )
    PASSED/PASSIVE-PULL-DOWN-OUTPUT/PASSIVE-PULL-UP-OUTPUT/PEACE( SYMBOL ) PAU_CIN_HAU(
    GLOTTAL_STOP=( FINAL VARIANT ) LETTER( A BA CA CHA DA E FA GA HA I IA KA KHA LA MA NA NGA O PA
    PHA RA SA TA THA U UA VA ZA FINAL( K L M N NG P T W Y ) ) LOW-FALLING/RISING( TONE=( FINAL
    LONG=( FINAL ) ) ) MID-LEVEL_TONE=( FINAL LONG_FINAL ) SANDHI( GLOTTAL_STOP=( FINAL ) TONE=(
    FINAL LONG=( FINAL ) ) ) ) PER( MILLE_SIGN SIGN TEN_THOUSAND_SIGN ) PERPENDICULAR=( WITH_S )
    PERSON( BOWING_DEEPLY CLIMBING DOING_CARTWHEEL FROWNING RAISING_BOTH_HANDS_IN_CELEBRATION IN(
    LOTUS_POSITION STEAMY_ROOM ) WITH( BALL BLOND_HAIR CROWN FOLDED_HANDS HEADSCARF POUTING_FACE )
    ) PHAGS-PA( SUPERFIXED_LETTER_RA DOUBLE/SINGLE( HEAD_MARK ) LETTER( A ALTERNATE_YA
    ASPIRATED_FA BA CA CANDRABINDU CHA DA DDA DZA E EE FA GA GGA HA I JA KA KHA LA MA NA NGA NNA
    NYA O PA PHA QA RA SA SHA SMALL_A TA THA TSA TSHA TTA TTHA U VOICED_HA VOICELESS_SHA WA XA YA
    ZA ZHA ) MARK( DOUBLE_SHAD SHAD ) SUBJOINED_LETTER( RA WA YA ) ) PHAISTOS_DISC_SIGN( ARROW BEE
    BEEHIVE BOOMERANG BOW BULLS_LEG CAPTIVE CARPENTRY_PLANE CAT CHILD CLUB COLUMN COMB
    COMBINING_OBLIQUE_STROKE DOLIUM DOVE EAGLE FLUTE GAUNTLET GRATER HELMET HIDE HORN LID LILY
    MANACLES MATTOCK OX_BACK PAPYRUS PEDESTRIAN PLANE_TREE RAM ROSETTE SAW SHIELD SHIP SLING
    SMALL_AXE STRAINER TIARA TUNNY VINE WAVY_BAND WOMAN PLUMED/TATTOOED( HEAD ) ) PHILIPPINE(
    DOUBLE/SINGLE( PUNCTUATION ) ) PHOENICIAN( WORD_SEPARATOR LETTER( AIN ALF BET DELT GAML HE HET
    KAF LAMD MEM NUN PE QOF ROSH SADE SEMK SHIN TAU TET WAU YOD ZAI ) NUMBER( TEN THREE TWENTY TWO
    ONE=( HUNDRED ) ) ) PIG=( FACE NOSE ) PITCHFORK=( WITH_TEE_TOP ) PLACE_OF( INTEREST_SIGN
    WORSHIP ) PLANCK_CONSTANT=( OVER_TWO_PI ) PLAYING_CARD( BACK FOOL TRUMP-10:21 TRUMP-1:9
    ACE/EIGHT/FIVE/FOUR/JACK/KING/KNIGHT/NINE/QUEEN/SEVEN/SIX/TEN/THREE/TWO( OF( CLUBS DIAMONDS
    HEARTS SPADES ) ) BLACK/RED/WHITE( JOKER ) ) PLUS_SIGN=( ABOVE_EQUALS_SIGN IN( TRIANGLE
    LEFT/RIGHT( HALF_CIRCLE ) ) WITH( BLACK_TRIANGLE CIRCUMFLEX_ACCENT_ABOVE DOT_BELOW
    SMALL_CIRCLE_ABOVE SUBSCRIPT_TWO TILDE( ABOVE BELOW ) ) ) PLUTO=( FORM( FIVE FOUR THREE TWO )
    ) POLICE( CAR CARS_REVOLVING_LIGHT OFFICER ) POP_DIRECTIONAL( FORMATTING ISOLATE ) POSTAL(
    HORN MARK=( FACE ) ) POUTING( CAT_FACE FACE ) POWER( SYMBOL ON/ON-OFF/SLEEP( SYMBOL ) )
    PRECEDES=( BUT_NOT_EQUIVALENT_TO UNDER_RELATION ABOVE( ALMOST_EQUAL_TO EQUALS_SIGN NOT(
    ALMOST_EQUAL_TO EQUAL_TO ) SINGLE-LINE( EQUALS_SIGN NOT_EQUAL_TO ) ) OR( EQUAL/EQUIVALENT( TO
    ) ) ) PREGNANT( MAN PERSON WOMAN ) PRESENTATION_FORM_FOR_VERTICAL( COLON COMMA
    HORIZONTAL_ELLIPSIS LOW_LINE SEMICOLON TWO_DOT_LEADER WAVY_LOW_LINE EM/EN( DASH )
    EXCLAMATION/QUESTION( MARK ) IDEOGRAPHIC( COMMA FULL_STOP ) LEFT( BLACK_LENTICULAR_BRACKET
    DOUBLE_ANGLE_BRACKET PARENTHESIS TORTOISE_SHELL_BRACKET ANGLE/CORNER/CURLY/SQUARE( BRACKET )
    WHITE( CORNER/LENTICULAR( BRACKET ) ) ) RIGHT( BLACK_LENTICULAR_BRACKET DOUBLE_ANGLE_BRACKET
    PARENTHESIS TORTOISE_SHELL_BRACKET ANGLE/CORNER/CURLY/SQUARE( BRACKET ) WHITE( CORNER_BRACKET
    LENTICULAR( BRACKET BRAKCET ) ) ) ) PRINTER=( ICON ) PRIVATE( USE-1 USE-2 USE( ONE TWO ) )
    PSALTER_PAHLAVI( SECTION_MARK TURNED_SECTION_MARK FOUR_DOTS_WITH( CROSS DOT ) LETTER( ALEPH
    BETH DALETH GIMEL HE HETH KAPH LAMEDH MEM-QOPH NUN PE SADHE SAMEKH SHIN TAW WAW-AYIN-RESH YODH
    ZAYIN ) NUMBER( FOUR TEN THREE TWENTY TWO ONE=( HUNDRED ) ) )"),
  ('Q', "QUARTER_NOTE QUATERNION_INTEGRAL_OPERATOR QUESTIONED_EQUAL_TO QUINCUNX QUOTATION_MARK
    QUADRANT( LOWER( LEFT RIGHT ) UPPER( LEFT=( AND( LOWER( LEFT_AND_LOWER_RIGHT RIGHT )
    UPPER_RIGHT_AND_LOWER( LEFT RIGHT ) ) ) RIGHT=( AND_LOWER_LEFT=( AND_LOWER_RIGHT ) ) ) )
    QUADRUPLE( INTEGRAL_OPERATOR PRIME ) QUESTION( EXCLAMATION_MARK MARK )"),
  ('R', "RACCOON RADICAL_SYMBOL_BOTTOM RAIN RAINBOW RAM RAT RATIO RAZOR RECEIPT RECORD_SEPARATOR
    RECREATIONAL_VEHICLE RECYCLED_PAPER_SYMBOL REFERENCE_MARK REMINDER_RIBBON
    REPLACEMENT_CHARACTER RESPONSE RESTROOM REVOLVING_HEARTS RHINOCEROS RI RIFLE
    RIGHT-HANDED_INTERLACED_PENTAGRAM RIGHT-SHADED_WHITE_RIGHTWARDS_ARROW
    RIGHT-SIDE_ARC_CLOCKWISE_ARROW RIGHTHAND_INTERIOR_PRODUCT RINGED_PLANET RINGING_BELL RLE RLI
    RLM RLO ROASTED_SWEET_POTATO ROCK ROCKET ROLLED-UP_NEWSPAPER ROLLING_ON_THE_FLOOR_LAUGHING
    ROLL_OF_PAPER ROOSTER ROSE ROSETTE ROWBOAT RS RUGBY_FOOTBALL RULE-DELAYED RUNNER
    RUNNING_SHIRT_WITH_SASH RABBIT=( FACE ) RACING( CAR MOTORCYCLE ) RADIO=( BUTTON )
    RADIOACTIVE/REGISTERED/RIAL/RUBLE/RUPEE( SIGN ) RAILWAY( CAR TRACK ) RAISED( BACK_OF_HAND
    COMMA DOT DOTTED_INTERPOLATION_MARKER FIST INTERPOLATION_MARKER SQUARE HAND=( WITH(
    FINGERS_SPLAYED PART_BETWEEN_MIDDLE_AND_RING_FINGERS ) ) MC/MD/MR( SIGN ) )
    RECYCLING_SYMBOL_FOR( GENERIC_MATERIALS TYPE-1:7( PLASTICS ) ) RED( APPLE GIFT_ENVELOPE )
    REGIONAL_INDICATOR_SYMBOL_LETTER( A B C D E F G H I J K L M N O P Q R S T U V W X Y Z )
    REJANG( SECTION_MARK VIRAMA CONSONANT_SIGN( H N NG R ) LETTER( A BA CA DA GA HA JA KA LA MA
    MBA NA NDA NGA NGGA NYA NYJA PA RA SA TA WA YA ) VOWEL_SIGN( AI AU E EA EU I O U ) )
    RELIEVED/ROBOT( FACE ) RESTRICTED_LEFT( ENTRY-1 ENTRY-2 ) RETURN( LEFT RIGHT SYMBOL ) REVERSE(
    CHECKER_BOARD INDEX LIGHT_FOUR_POINTED_PINWHEEL_STAR LINE_FEED SOLIDUS=( OPERATOR
    PRECEDING_SUBSET WITH_HORIZONTAL_STROKE ) TILDE_OPERATOR_ABOVE( LEFTWARDS/RIGHTWARDS( ARROW )
    ) ) REVERSED( COMMA EMPTY_SET FORKED_PARAGRAPHOS HAND_WITH_MIDDLE_FINGER_EXTENDED PRIME
    QUESTION_MARK RAISED_HAND_WITH_FINGERS_SPLAYED RIGHT_ANGLE ROTATED_FLORAL_HEART_BULLET
    SANS-SERIF_CAPITAL_L SEMICOLON TRIPLE_PRIME VICTORY_HAND ANGLE=( WITH_UNDERBAR ) DOUBLE(
    STROKE_NOT_SIGN PRIME=( QUOTATION_MARK ) ) NOT/PILCROW( SIGN ) THUMBS( DOWN/UP( SIGN ) )
    TILDE=( EQUALS ) ) RIBBON=( ARROW( DOWN/UP( LEFT RIGHT ) LEFT/RIGHT( DOWN UP ) ) ) RICE( BALL
    CRACKER ) RIGHT( ARC_GREATER-THAN_BRACKET CEILING DOTTED_SUBSTITUTION_BRACKET FISH_TAIL FLOOR
    HAND_TELEPHONE_RECEIVER LOW_PARAPHRASE_BRACKET NORMAL_FACTOR_SEMIDIRECT_PRODUCT
    OPEN_SQUARED_DOT OUTER_JOIN RAISED_OMISSION_BRACKET S-SHAPED_BAG_DELIMITER SEMIDIRECT_PRODUCT
    SIDEWAYS_U_BRACKET SINGLE_QUOTATION_MARK TACK THIRD_WHITE_RIGHT_POINTING_INDEX
    TORTOISE_SHELL_BRACKET TRIANGULAR_ONE_QUARTER_BLOCK WIGGLY_FENCE AND( LOWER/UPPER(
    ONE_EIGHTH_BLOCK ) ) ANGER/SPEECH/THOUGHT( BUBBLE ) ANGLE=( DOTTED_SUBSTITUTION_MARKER
    SUBSTITUTION_MARKER VARIANT_WITH_SQUARE BRACKET=( WITH_DOT ) WITH( ARC DOWNWARDS_ZIGZAG_ARROW
    ) ) ARROW_WITH( CIRCLED_PLUS SMALL_CIRCLE ) BLACK( LENTICULAR_BRACKET TORTOISE_SHELL_BRACKET )
    CORNER/SUBSTITUTION/TRANSPOSITION( BRACKET ) CURLY_BRACKET=( MIDDLE_PIECE LOWER/UPPER( HOOK )
    ) DOUBLE( ANGLE_BRACKET ARROW_WITH_ROUNDED_HEAD PARENTHESIS QUOTATION_MARK WIGGLY_FENCE )
    FIVE/SEVEN( EIGHTHS_BLOCK ) HALF( BLOCK FOLDER MEDIUM_SHADE RUNNING_MAN BLACK( CIRCLE STAR ) )
    ONE( EIGHTH/QUARTER( BLOCK ) ) PARENTHESIS=( EXTENSION LOWER/UPPER( HOOK ) ) SPEAKER=( WITH(
    ONE_SOUND_WAVE THREE_SOUND_WAVES ) ) SQUARE_BRACKET=( EXTENSION LOWER/UPPER( CORNER ) WITH(
    DOUBLE_STROKE QUILL STROKE UNDERBAR TICK_IN( BOTTOM/TOP( CORNER ) ) ) ) THREE(
    EIGHTHS/QUARTERS( BLOCK ) ) TRIANGLE=( ABOVE_LEFT_TRIANGLE ) VERTICAL( BAR_WITH_QUILL BOX_LINE
    ) WHITE( PARENTHESIS TORTOISE_SHELL_BRACKET CORNER/CURLY/LENTICULAR/SQUARE( BRACKET ) ) )
    RIGHT-FACING( ARMENIAN_ETERNITY_SIGN FIST SVASTI_SIGN=( WITH_DOTS ) ) RIGHT-POINTING(
    ANGLE_BRACKET CURVED_ANGLE_BRACKET DOUBLE_ANGLE_QUOTATION_MARK MAGNIFYING_GLASS )
    RIGHT-TO-LEFT( EMBEDDING ISOLATE MARK OVERRIDE ) RIGHTWARDS( ARROW-TAIL HAND PAIRED_ARROWS
    ROCKET TRIANGLE_ARROWHEAD TWO_HEADED_ARROW ARROW=( AND_UPPER_AND_LOWER_ONE_EIGHTH_BLOCK
    OVER_LEFTWARDS_ARROW ABOVE( ALMOST_EQUAL_TO SHORT_LEFTWARDS_ARROW TILDE_OPERATOR REVERSE(
    ALMOST_EQUAL_TO TILDE_OPERATOR ) ) FROM_BAR=( TO_BLACK_DIAMOND ) THROUGH( GREATER-THAN
    SUPERSET X ) TO( BAR BLACK_DIAMOND ) WITH( CORNER_DOWNWARDS DOTTED_STEM DOUBLE_VERTICAL_STROKE
    EQUILATERAL_ARROWHEAD HOOK LOOP NOTCHED_TAIL PLUS_BELOW STROKE VERTICAL_STROKE LARGE/MEDIUM(
    TRIANGLE_ARROWHEAD ) SMALL( EQUILATERAL/TRIANGLE( ARROWHEAD ) ) TAIL=( WITH(
    DOUBLE_VERTICAL_STROKE VERTICAL_STROKE ) ) TIP( DOWNWARDS UPWARDS ) ) )
    BACK-TILTED/FRONT-TILTED( SHADOWED_WHITE_ARROW ) BLACK( ARROW CIRCLED_WHITE_ARROW )
    BOTTOM/TOP( SHADED_WHITE_ARROW )
    COMPRESSED/DASHED/FINGER-POST/OPEN-HEADED/QUADRUPLE/SANS-SERIF/SQUARED/SQUIGGLE/WAVE( ARROW )
    DOUBLE( ARROW-TAIL DASH_ARROW ARROW=( FROM_BAR WITH( STROKE VERTICAL_STROKE ) ) ) HARPOON(
    OVER_LEFTWARDS_HARPOON WITH_BARB( DOWNWARDS UPWARDS DOWN(
    ABOVE_LEFTWARDS_HARPOON_WITH_BARB_DOWN BELOW_LONG_DASH FROM/TO( BAR ) ) UP( ABOVE(
    LEFTWARDS_HARPOON_WITH_BARB_UP LONG_DASH RIGHTWARDS_HARPOON_WITH_BARB_DOWN ) FROM/TO( BAR ) )
    ) ) HEAVY( ARROW COMPRESSED_ARROW ) LEFT-SHADED/RIGHT-SHADED( WHITE_ARROW ) TRIANGLE-HEADED(
    DASHED_ARROW PAIRED_ARROWS ARROW=( OVER_LEFTWARDS_TRIANGLE-HEADED_ARROW TO_BAR WITH(
    VERY_HEAVY_SHAFT BOLD/HEAVY/MEDIUM/NARROW( SHAFT ) DOUBLE( HORIZONTAL/VERTICAL( STROKE ) )
    LONG_TIP( DOWNWARDS UPWARDS ) ) ) ) TRIPLE( ARROW DASH_ARROW ) TWO-HEADED( TRIPLE_DASH_ARROW
    ARROW( FROM_BAR WITH( DOUBLE_VERTICAL_STROKE TRIANGLE_ARROWHEADS VERTICAL_STROKE TAIL=( WITH(
    DOUBLE_VERTICAL_STROKE VERTICAL_STROKE ) ) ) ) ) WHITE_ARROW=( FROM_WALL
    WITHIN_TRIANGLE_ARROWHEAD ) ) RING=( ABOVE BUOY EQUAL_TO IN_EQUAL_TO OPERATOR POINT )
    RISING_DIAGONAL_CROSSING( FALLING_DIAGONAL SOUTH_EAST_ARROW ) ROLLER( COASTER SKATE ) ROMAN(
    DIMIDIA_SEXTULA_SIGN
    AS/CENTURIAL/DENARIUS/DUPONDIUS/QUINARIUS/SEMUNCIA/SESTERTIUS/SEXTANS/SEXTULA/SILIQUA( SIGN )
    NUMERAL( EIGHT ELEVEN FOUR NINE REVERSED_ONE_HUNDRED SEVEN THREE TWELVE TWO FIFTY=( EARLY_FORM
    THOUSAND ) FIVE=( HUNDRED THOUSAND ) ONE=( HUNDRED=( THOUSAND ) THOUSAND=( C_D ) ) SIX=(
    LATE_FORM ) TEN=( THOUSAND ) ) UNCIA( SIGN ) ) ROTATED( CAPITAL_Q FLORAL_HEART_BULLET
    HEAVY_BLACK_HEART_BULLET LIGHT_FOUR_POINTED_BLACK_CUSP WHITE_FOUR_POINTED_CUSP ) ROUND(
    PUSHPIN TARGET ) ROUNDED_SYMBOL_FOR( CAI FU LU SHOU SHUANGXI XI ) RUMI( DIGIT( EIGHT FIVE FOUR
    NINE ONE SEVEN SIX THREE TWO ) FRACTION( TWO_THIRDS ONE( HALF QUARTER THIRD ) ) NUMBER( EIGHTY
    FIFTY FORTY NINETY SEVENTY SIXTY TEN THIRTY TWENTY
    EIGHT/FIVE/FOUR/NINE/ONE/SEVEN/SIX/THREE/TWO( HUNDRED ) ) ) RUNIC( ARLAUG/BELGTHOR/TVIMADUR(
    SYMBOL ) CROSS/MULTIPLE/SINGLE( PUNCTUATION ) LETTER( AESC ALGIZ_EOLHX
    BERKANAN_BEORC_BJARKAN_B C CALC CEALC CEN CWEORTH D DAGAZ_DAEG_D DOTTED-L DOTTED-N DOTTED-P E
    EAR EHWAZ_EH_E ENG ETH FEHU_FEOH_FE_F G GAR GEBO_GYFU_G GER ICELANDIC-YR ING INGWAZ IOR
    ISAZ_IS_ISS_I IWAZ_EOH JERAN_J K KAUNA KAUN_K LAUKAZ_LAGU_LOGR_L LONG-BRANCH-AR_AE
    LONG-BRANCH-YR MANNAZ_MAN_M NAUDIZ_NYD_NAUD_N O OE ON OO OPEN-P OTHALAN_ETHEL_O
    PERTHO_PEORTH_P Q RAIDO_RAD_REID_R SH SHORT-TWIG-BJARKAN_B SHORT-TWIG-NAUD_N SHORT-TWIG-TYR_T
    SHORT-TWIG-YR SIGEL_LONG-BRANCH-SOL_S STAN THURISAZ_THURS_THORN TIWAZ_TIR_TYR_T URUZ_UR_U V W
    WUNJO_WYNN_W X Y YR Z AC/ANSUZ/SHORT-TWIG-AR( A ) FRANKS_CASKET( AC AESC EH IS OS )
    HAEGL/HAGLAZ/LONG-BRANCH-HAGALL/SHORT-TWIG-HAGALL( H ) LONG-BRANCH-MADR/SHORT-TWIG-MADR( M )
    LONG-BRANCH-OSS/OS/SHORT-TWIG-OSS( O ) SHORT-TWIG-SOL/SOWILO( S ) ) )
    RUSSIAN_ASTROLOGICAL_SYMBOL( BINOVILE NOVILE QUINTILE SENTAGON TREDECILE VIGINTILE )"),
  ('S', "SAGITTARIUS SAILBOAT SAKE_BOTTLE_AND_CUP SALTIRE SALT_SHAKER SANDWICH SARI SATURN SAUROPOD
    SAXOPHONE SCALES SCARF SCI SCOOTER SCORPION SCORPIUS SCREEN SCREWDRIVER SCROLL SCRUPLE SEAL
    SEAT SECOND_PLACE_MEDAL SECTOR SEDNA SEEDLING SEGMENT SELFIE SEMICOLON
    SEMIDIRECT_PRODUCT_WITH_BOTTOM_CLOSED SEMISEXTILE SERIOUS_FACE_WITH_SYMBOLS_COVERING_MOUTH
    SERVICE_MARK SESAME_DOT SESQUIQUADRATE SEWING_NEEDLE SEXTILE SGC SHALLOW_PAN_OF_FOOD SHAMROCK
    SHARK SHAVED_ICE SHEEP SHIELD SHINTO_SHRINE SHIP SHOCKED_FACE_WITH_EXPLODING_HEAD
    SHOOTING_STAR SHORTCAKE SHORTS SHOULDERED_OPEN_BOX SHOWER SHRIMP SHRUG SHY SI
    SIGN_OF_THE_HORNS SILHOUETTE_OF_JAPAN SINE_WAVE SINGLE-SHIFT-2 SINGLE-SHIFT-3 SIX-PER-EM_SPACE
    SIXTEEN_POINTED_ASTERISK SKATEBOARD SKIER SKI_AND_SKI_BOOT SKUNK SLAVONIC_ASTERISK SLED
    SLEUTH_OR_SPY SLICE_OF_PIZZA SLOPE SLOTH SLOT_MACHINE SMILE SNAIL SNAKE SNOWBOARDER SNOWFLAKE
    SNOW_CAPPED_MOUNTAIN SO SOCCER_BALL SOCKS SOFTBALL SOH SOON_WITH_RIGHTWARDS_ARROW_ABOVE SOS
    SOUND_RECORDING_COPYRIGHT SP SPA SPACE SPAGHETTI SPARKLE SPARKLES SPARKLING_HEART
    SPEAKING_HEAD_IN_SILHOUETTE SPEECH_BALLOON SPEEDBOAT SPLASHING_SWEAT_SYMBOL SPONGE
    SPOOL_OF_THREAD SPOON SPORTS_MEDAL SPOUTING_WHALE SQUAT_BLACK_RIGHTWARDS_ARROW SQUID SS2 SS3
    SSA ST STADIUM STAMPED_ENVELOPE STANDING_PERSON STATION STATUE_OF_LIBERTY STEAMING_BOWL
    STEAM_LOCOMOTIVE STENOGRAPHIC_FULL_STOP STETHOSCOPE STOCK_CHART STOPWATCH STRAIGHTNESS
    STRAIGHT_RULER STRAWBERRY STRESS_OUTLINED_WHITE_STAR STRICTLY_EQUIVALENT_TO STRING_TERMINATOR
    STS STUDIO_MICROPHONE STUFFED_FLATBREAD STUPA STX SUB SUBSTITUTE SUNFLOWER
    SUNSET_OVER_BUILDINGS SUPERHERO SUPERVILLAIN SURFACE_INTEGRAL SURFER SUSHI SUSPENSION_RAILWAY
    SWAN SWASH_AMPERSAND_ORNAMENT SWIMMER SWUNG_DASH SYMMETRY SYN SYNAGOGUE SYNCHRONOUS_IDLE
    SYRINGE S_IN_TRIANGLE SAFETY( PIN VEST ) SALUTING/SLEEPY/SMIRKING/SNEEZING( FACE ) SAMARITAN(
    ABBREVIATION_MARK LETTER( ALAF BAA BIT DALAT FI GAMAN IN IT IY KAAF LABAT MIM NUN QUF RISH
    SHAN SINGAAT TAAF TIT TSAADIY YUT ZEN ) MARK( DAGESH EPENTHETIC_YUT IN IN-ALAF NEQUDAA
    OCCLUSION ) MODIFIER_LETTER( EPENTHETIC_YUT I SHORT_A ) PUNCTUATION( AFSAAQ ANGED ANNAAU
    ARKAANU ATMAAU BAU MELODIC_QITSA NEQUDAA QITSA SHIYYAALAA SOF_MASHFAAT TURU ZAEF ZIQAA )
    VOWEL_SIGN( A AA E I O SHORT_A SUKUN U LONG( A AA E I U ) OVERLONG( A AA ) ) ) SANS-SERIF(
    INTERROBANG_ORNAMENT HEAVY( LOW_DOUBLE_COMMA_QUOTATION_MARK_ORNAMENT DOUBLE(
    COMMA_QUOTATION_MARK_ORNAMENT TURNED_COMMA_QUOTATION_MARK_ORNAMENT ) ) ) SATELLITE=( ANTENNA )
    SAURASHTRA( CONSONANT_SIGN_HAARU DANDA DOUBLE_DANDA DIGIT( EIGHT FIVE FOUR NINE ONE SEVEN SIX
    THREE TWO ZERO ) LETTER( A AA AI AU BA BHA CA CHA DA DDA DDHA DHA E EE GA GHA HA I II JA JHA
    KA KHA LA LLA MA NA NGA NNA NYA O OO PA PHA RA SA SHA SSA TA THA TTA TTHA U UU VA YA VOCALIC(
    L LL R RR ) ) SIGN( ANUSVARA CANDRABINDU VIRAMA VISARGA ) VOWEL_SIGN( AA AI AU E EE I II O OO
    U UU VOCALIC( L LL R RR ) ) ) SCHOOL=( SATCHEL ) SCRIPT( LIGATURE_ET_ORNAMENT CAPITAL( B E F H
    I L M P R ) SMALL( E G L O ) ) SECTION/SOM/SPESMILO( SIGN ) SEE-NO-EVIL/SPEAK-NO-EVIL( MONKEY
    ) SEGMENTED_DIGIT( EIGHT FIVE FOUR NINE ONE SEVEN SIX THREE TWO ZERO )
    SEPARATED/SMOKING/SOFTWARE-FUNCTION( SYMBOL ) SET( MINUS TRANSMIT_STATE ) SHADOWED_WHITE(
    CIRCLE LATIN_CROSS STAR ) SHARADA( DANDA DOUBLE_DANDA EKAM EXTRA_SHORT_VOWEL_MARK HEADSTROKE
    OM SEPARATOR ABBREVIATION/CONTINUATION( SIGN ) DIGIT( EIGHT FIVE FOUR NINE ONE SEVEN SIX THREE
    TWO ZERO ) LETTER( A AA AI AU BA BHA CA CHA DA DDA DDHA DHA E GA GHA HA I II JA JHA KA KHA LA
    LLA MA NA NGA NNA NYA O PA PHA RA SA SHA SSA TA THA TTA TTHA U UU VA YA VOCALIC( L LL R RR ) )
    SANDHI/SUTRA( MARK ) SECTION( MARK-1 MARK-2 ) SIGN( ANUSVARA AVAGRAHA CANDRABINDU
    INVERTED_CANDRABINDU JIHVAMULIYA NUKTA SIDDHAM UPADHMANIYA VIRAMA VISARGA ) VOWEL(
    MODIFIER_MARK SIGN( AA AI AU E I II O PRISHTHAMATRA_E U UU VOCALIC( L LL R RR ) ) ) )
    SHAVIAN_LETTER( ADO AGE AH AIR ARE ARRAY ASH AWE BIB CHURCH DEAD EAR EAT EGG ERR FEE GAG HA-HA
    HUNG IAN ICE IF JUDGE KICK LOLL MEASURE MIME NUN OAK OIL ON OOZE OR OUT PEEP ROAR SO SURE THEY
    THIGH TOT UP VOW WOE WOOL YEA YEW ZOO ) SHIFT( IN OUT ) SHOPPING( BAGS TROLLEY ) SHORT(
    BACKSLANTED_SOUTH_ARROW BENT_ARROW_POINTING_DOWNWARDS_THEN_NORTH_EAST LEFT_TACK
    RIGHTWARDS_ARROW_ABOVE_LEFTWARDS_ARROW SLANTED_NORTH_ARROW DOWN_TACK=( WITH_OVERBAR )
    UP_TACK=( ABOVE_SHORT_DOWN_TACK WITH_UNDERBAR ) ) SHORTHAND_FORMAT( CONTINUING/LETTER( OVERLAP
    ) DOWN/UP( STEP ) ) SHUFFLE/SMASH( PRODUCT ) SIDDHAM( DANDA DOUBLE_DANDA END_OF_TEXT_MARK
    LETTER( A AA AI ALTERNATE_U AU BA BHA CA CHA DA DDA DDHA DHA E GA GHA HA I II JA JHA KA KHA LA
    MA NA NGA NNA NYA O PA PHA RA SA SHA SSA TA THA THREE-CIRCLE_ALTERNATE_I TTA TTHA U UU VA YA
    TWO-CIRCLE_ALTERNATE( I II ) VOCALIC( L LL R RR ) ) REPETITION( MARK-1:3 ) SECTION_MARK(
    DOUBLE_RING=( WITH_RAYS ) WITH( CIRCLES_AND( RAYS FOUR/TWO( ENCLOSURES ) )
    DOUBLE/QUADRUPLE/SEPTUPLE/TRIPLE( CRESCENTS ) RAYS_AND_DOTTED( CRESCENTS DOUBLE/TRIPLE(
    CRESCENTS ) ) TRIDENT_AND( DOTTED_CRESCENTS U-SHAPED_ORNAMENTS ) ) ) SEPARATOR( BAR DOT )
    SIGN( ANUSVARA CANDRABINDU NUKTA SIDDHAM VIRAMA VISARGA ) VOWEL_SIGN( AA AI AU E I II O U UU
    ALTERNATE( U UU ) VOCALIC( R RR ) ) ) SIDEWAYS( BLACK/WHITE( DOWN/LEFT/RIGHT/UP(
    POINTING_INDEX ) ) ) SIGNWRITING( COLON COMMA EARS EXCITEMENT FINGER FULL_STOP HAIR
    LIPS_PRESSED_TOGETHER NECK PARENTHESIS SEMICOLON TORSO-FLOORPLANE_TWISTING
    UPPER_BODY_TILTING_FROM_HIP_JOINTS AIR( BLOWING_OUT SUCKING_IN BLOW/SUCK( SMALL_ROTATIONS ) )
    BREATH( EXHALE INHALE ) BRUSH/GRASP/RUB/STRIKE/TOUCH( BETWEEN MULTIPLE SINGLE ) CHEEKS(
    NEUTRAL PUFFED SUCKED ) DREAMY_EYEBROWS( DOWN/UP( NEUTRAL ) NEUTRAL( DOWN UP ) ) DYNAMIC(
    EVERY_OTHER_TIME FAST GRADUAL RELAXED SLOW TENSE ARROWHEAD( LARGE SMALL ) SIMULTANEOUS=(
    ALTERNATING ) ) EYE( WINK BLINK( MULTIPLE SINGLE ) ) EYEBROWS_STRAIGHT( DOWN NEUTRAL UP )
    EYEGAZE-FLOORPLANE( CURVED STRAIGHT=( ALTERNATING DOUBLE ) ) EYEGAZE-WALLPLANE( CIRCLING
    CURVED STRAIGHT=( ALTERNATING DOUBLE ) ) EYELASHES( DOWN FLUTTERING UP ) EYES( CLOSED OPEN
    SQUEEZED WIDENING_MOVEMENT WIDE_OPEN HALF( CLOSED OPEN ) ) FACE_DIRECTION_POSITION_NOSE(
    FORWARD_TILTING UP_OR_DOWN=( TILTING ) ) FILL( MODIFIER-2:6 ) FLICK( SEQUENTIAL LARGE/SMALL(
    MULTIPLE SINGLE ) ) FLOORPLANE/WALLPLANE( SHOULDER_HIP_MOVE ) FOREHEAD( CONTACT NEUTRAL
    WRINKLED ) HAND-ANGLE=( INDEX=( MIDDLE( LITTLE RING ) RING_LITTLE=( OUT ) THUMB=( IN OUT ) )
    LITTLE( UP INDEX=( THUMB_INDEX_THUMB=( OUT ) ) ) MIDDLE_RING_LITTLE=( IN OUT ) RING(
    DOWN_MIDDLE_THUMB_INDEX_CROSS LITTLE ) ) HAND-CIRCLE=( RING_LITTLE INDEX=( BENT HINGE
    RING_LITTLE MIDDLE=( CROSSED CROSS_LITTLE LITTLE RING THUMB ) ) LITTLE( INDEX UP ) MIDDLE( UP
    RING_LITTLE=( BENT ) ) ) HAND-CLAW=( FOUR_FINGERS_CONJOINED INDEX_THUMB_CURVE_THUMB_INSIDE
    NO_THUMB MIDDLE_RING_LITTLE_CONJOINED=( SIDE ) THUMB( FORWARD SIDE ) ) HAND-CUP=(
    MIDDLE_RING_LITTLE NO_THUMB FIVE_FINGERS_SPREAD=( OPEN ) INDEX=( RING_LITTLE THUMB=( OPEN ) )
    OPEN=( NO_THUMB THUMB( FORWARD SIDE ) ) THUMB( FORWARD SIDE ) ) HAND-CURLICUE=( OPEN
    INDEX/MIDDLE( RING_LITTLE_ON ) ) HAND-FIST=( FOUR_FINGERS_CONJOINED_BENT HEEL INDEX=( CUPPED
    RAISED_KNUCKLE RING_LITTLE BENT=( OVER_MIDDLE ) HINGED=( LOW MIDDLE_UP=( THUMB_SIDE ) )
    MIDDLE=( CROSS_LITTLE LITTLE RAISED_KNUCKLES STRAIGHT_THUMB_BENT UP_SPREAD_THUMB_FORWARD
    BENT=( THUMB_STRAIGHT ) CONJOINED=( CUPPED=( THUMB_FORWARD ) HINGED=( THUMB_SIDE )
    INDEX/MIDDLE( BENT ) THUMB( FORWARD SIDE=( BENT CONJOINED ) ) ) CROSSED=( THUMB_SIDE )
    HINGED=( SPREAD_THUMB_SIDE ) RING=( BENT CONJOINED ) THUMB=( BENT CIRCLED CONJOINED_HINGED
    CUPPED HINGED HOOKED ANGLED=( OUT ) ) ) THUMB( CIRCLE CURLICUE HOOK ANGLED( IN/OUT( MIDDLE_UP
    ) ) CIRCLED/CUPPED( MIDDLE_UP ) CURVE_THUMB( INSIDE UNDER ) FORWARD_INDEX( BENT STRAIGHT )
    HOOKED_MIDDLE( HINGED UP ) SIDE=( BOTH_BENT INDEX( BENT HINGE ) THUMB( BENT CONJOINED DIAGONAL
    ) ) ) UP_MIDDLE_HINGED=( THUMB( CONJOINED SIDE ) ) ) LITTLE( BENT RAISED_KNUCKLE THUMB
    TOUCHES_THUMB UP DOWN=( OTHERS_CIRCLED RIPPLE( CURVED STRAIGHT ) ) INDEX=( THUMB ) ) MIDDLE(
    BENT_OVER_INDEX DOWN LITTLE RAISED_KNUCKLE RING_LITTLE THUMB( LITTLE ANGLED( INDEX_UP
    OUT_INDEX( CROSSED UP ) ) CIRCLED_INDEX( HINGED UP ) CUPPED/HOOKED( INDEX_UP ) ) UP=(
    THUMB_SIDE ) ) RING( DOWN INDEX LITTLE RAISED_KNUCKLE THUMB UP MIDDLE=( CONJOINED
    RAISED_KNUCKLES ) ) THUMB=( FORWARD HEEL BETWEEN( MIDDLE_RING RING_LITTLE INDEX_MIDDLE=(
    STRAIGHT ) ) OVER( FOUR_RAISED_KNUCKLES TWO_FINGERS ) SIDE( BENT CONJOINED DIAGONAL ) UNDER(
    INDEX_BENT LITTLE_UP FOUR/THREE/TWO( FINGERS ) ) ) ) HAND-FLAT=( BETWEEN_PALM_FACINGS
    FIVE_FINGERS_SPREAD=( BENT FOUR_BENT THUMB_FORWARD HINGED=( NO_THUMB THUMB_SIDE ) )
    FOUR_FINGERS=( BENT HINGED CONJOINED=( SPLIT ) ) HEEL=( THUMB_SIDE FIVE_FINGERS_SPREAD=( BENT
    FOUR_BENT ) ) SPLIT( INDEX_THUMB_SIDE LITTLE CENTRE=( THUMB_SIDE=( BENT ) ) ) THUMB( BENT
    FORWARD SIDE ) ) HAND-HINGE=( FIVE_FINGERS_SPREAD_OPEN FOUR_FINGERS_CONJOINED NO_THUMB SMALL
    INDEX=( HINGED RING_LITTLE MIDDLE( LITTLE RING=( CONJOINED ) ) THUMB=( LARGE OPEN SIDE SMALL )
    ) LITTLE=( THUMB INDEX=( THUMB ) ) MIDDLE=( RING_LITTLE ) OPEN=( NO_THUMB THUMB( FORWARD SIDE
    ) ) RING=( DOWN_INDEX_THUMB_HOOK_MIDDLE ) THUMB( BETWEEN_MIDDLE_RING SIDE=( TOUCHING_INDEX ) )
    ) HAND-HOOK=( CURLICUE RING_THUMB INDEX_RING_LITTLE( IN OUT UNDER ) MIDDLE( THUMB
    RING_LITTLE_CONJOINED=( IN OUT ) ) ) HAND-OVAL=( FIVE_FINGERS_SPREAD INDEX LITTLE_UP NO_THUMB
    RING_LITTLE THUMB( FORWARD SIDE ) ) HEAD=( MOVEMENT_CIRCLE RIM MOVEMENT-FLOORPLANE( CURVE
    STRAIGHT ) MOVEMENT-WALLPLANE( CURVE STRAIGHT TILT ) ) LIMB( COMBINATION LENGTH-1:7 ) LIP(
    LOWER_OVER_UPPER UPPER_OVER_LOWER ) LOCATION( DEPTH HEAD_NECK HEIGHT LIMBS_DIGITS TORSO WIDTH
    ) LOCATION-FLOORPLANE/LOCATION-WALLPLANE( SPACE ) MOUTH( CORNERS CLOSED( CONTACT FORWARD
    NEUTRAL ) FROWN/SMILE=( OPEN WRINKLED ) KISS=( FORWARD WRINKLED ) OPEN( CIRCLE FORWARD
    WRINKLED OVAL/RECTANGLE=( WRINKLED YAWN ) ) TENSE=( FORWARD SUCKED ) WRINKLES( DOUBLE SINGLE )
    ) MOVEMENT-DIAGONAL( AWAY/TOWARDS( LARGE LARGEST MEDIUM SMALL ) BETWEEN( AWAY/TOWARDS( LARGE
    LARGEST MEDIUM SMALL ) ) ) MOVEMENT-FLOORPLANE( BEND CHECK CROSS JAW SHAKING_PARALLEL
    ARM_CIRCLE_HITTING_WALL( LARGE/MEDIUM/SMALL( DOUBLE SINGLE ) ) BOX/CORNER/PEAKS/ZIGZAG( LARGE
    MEDIUM SMALL ) CURVE( COMBINED LARGE LARGEST MEDIUM SMALL HITTING( CEILING/FLOOR( LARGE SMALL
    ) ) ) DOUBLE( STRAIGHT WRIST_FLEX ALTERNATING=( WRIST_FLEX ) ) FINGER( CONTACT
    CIRCLES_HITTING_WALL( DOUBLE SINGLE ) ) HUMP( SMALL HITTING( CEILING( LARGE/SMALL( DOUBLE
    TRIPLE ) ) FLOOR( LARGE/SMALL( DOUBLE ) TRIPLE( LARGE/SMALL( TRIPLE ) ) ) ) ) LOOP( SMALL
    HITTING( CEILING/FLOOR( LARGE/SMALL( DOUBLE SINGLE ) ) ) ) SINGLE( WRIST_FLEX STRAIGHT( LARGE
    LARGEST MEDIUM SMALL ) ) TRIPLE( STRAIGHT_MOVEMENT WRIST_FLEX ALTERNATING( MOVEMENT WRIST_FLEX
    ) ) WAVE( LARGE SMALL SNAKE HITTING( CEILING/FLOOR( LARGE SMALL ) ) )
    WRIST_CIRCLE_HITTING_WALL( DOUBLE SINGLE ) ) MOVEMENT-HINGE( DOWN_SEQUENTIAL
    SIDE_TO_SIDE_SCISSORS UP( SEQUENTIAL DOWN( LARGE SMALL ALTERNATING( LARGE SMALL ) ) ) )
    MOVEMENT-WALLPLANE( CROSS JAW SHAKING ARM_CIRCLE( MEDIUM/SMALL( DOUBLE SINGLE ) )
    BEND/BOX/CHECK/PEAKS/ZIGZAG( LARGE MEDIUM SMALL ) CORNER( LARGE MEDIUM ROTATION SMALL ) CURVE(
    THEN_STRAIGHT HALF-CIRCLE/QUARTER( LARGE LARGEST MEDIUM SMALL ) HITTING( CHEST FRONT_WALL )
    THREE-QUARTER_CIRCLE( MEDIUM SMALL ) ) CURVED_CROSS( MEDIUM SMALL ) DOUBLE( STRAIGHT
    WRIST_FLEX ALTERNATING=( WRIST_FLEX ) ) FINGER( CONTACT CIRCLES( DOUBLE SINGLE ) ) HUMP( LARGE
    MEDIUM SMALL HITTING( CHEST FRONT_WALL ) ) LOOP( LARGE MEDIUM HITTING( CHEST FRONT_WALL )
    SMALL=( DOUBLE ) ) SINGLE( WRIST_FLEX STRAIGHT( LARGE LARGEST MEDIUM SMALL ) ) TRIPLE(
    STRAIGHT_MOVEMENT WRIST_FLEX ALTERNATING=( WRIST_FLEX ) ) WAVE( CURVE( DOUBLE/TRIPLE( LARGE
    MEDIUM SMALL ) ) DIAGONAL_PATH( LARGE MEDIUM SMALL ) HITTING( CHEST FRONT_WALL ) )
    WRIST_CIRCLE_FRONT( DOUBLE SINGLE ) ) NOSE( CONTACT NEUTRAL WIGGLES WRINKLES ) ROTATION(
    MODIFIER-10:16 MODIFIER-2:9 ) ROTATION-FLOORPLANE( ALTERNATING/DOUBLE/SINGLE=( HITTING(
    CEILING FLOOR ) ) ) ROTATION-WALLPLANE( ALTERNATE ALTERNATING_HITTING( CHEST FRONT_WALL )
    DOUBLE/SINGLE=( HITTING( CHEST FRONT_WALL ) ) ) SHOULDER( TILTING_FROM_WAIST HIP( POSITIONS
    SPINE ) ) SQUEEZE( FLICK_ALTERNATING SEQUENTIAL LARGE/SMALL( MULTIPLE SINGLE ) ) SURFACE(
    BETWEEN SYMBOLS ) TEETH=( BITE_LIPS MOVEMENT ON( LIPS/TONGUE=( MOVEMENT ) ) ) TENSE_CHEEKS(
    HIGH LOW MIDDLE ) TONGUE( INSIDE_MOUTH_RELAXED LICKING_LIPS MOVES_AGAINST_CHEEK
    STICKING_OUT_FAR CENTRE( INSIDE_MOUTH STICKING_OUT ) TIP( BETWEEN_LIPS TOUCHING_INSIDE_MOUTH )
    ) TORSO-WALLPLANE( CURVED_BEND STRAIGHT_STRETCH ) TRAVEL-FLOORPLANE( SHAKING
    ROTATION-FLOORPLANE/ROTATION-WALLPLANE( ALTERNATING DOUBLE SINGLE ) ) TRAVEL-WALLPLANE(
    SHAKING ARM_SPIRAL( DOUBLE SINGLE TRIPLE ) ROTATION-FLOORPLANE/ROTATION-WALLPLANE( ALTERNATING
    DOUBLE SINGLE ) ) ) SIMILAR( MINUS_SIMILAR ABOVE( GREATER-THAN/LESS-THAN( ABOVE_EQUALS_SIGN )
    ) OR( GREATER-THAN LESS-THAN ) ) SINGLE( CHARACTER_INTRODUCER GRAPHIC_CHARACTER_INTRODUCER
    HIGH-REVERSED-9/LOW-9( QUOTATION_MARK ) LEFT-POINTING/RIGHT-POINTING( ANGLE_QUOTATION_MARK )
    SHIFT( THREE TWO ) ) SINHALA( PUNCTUATION_KUNDDALIYA ARCHAIC( DIGIT( EIGHT FIVE FOUR NINE ONE
    SEVEN SIX THREE TWO ) NUMBER( EIGHTY FIFTY FORTY NINETY SEVENTY SIXTY TEN THIRTY TWENTY ONE(
    HUNDRED THOUSAND ) ) ) LETTER( AAYANNA AEEYANNA AEYANNA AIYANNA AMBA_BAYANNA AUYANNA AYANNA
    EEYANNA EYANNA FAYANNA HAYANNA IIYANNA ILUUYANNA ILUYANNA IRUUYANNA IRUYANNA IYANNA
    KANTAJA_NAASIKYAYA MAYANNA OOYANNA OYANNA RAYANNA UUYANNA UYANNA VAYANNA YAYANNA
    ALPAPRAANA/MAHAAPRAANA( BAYANNA CAYANNA DAYANNA DDAYANNA GAYANNA JAYANNA KAYANNA PAYANNA
    TAYANNA TTAYANNA ) DANTAJA/MUURDHAJA( LAYANNA NAYANNA SAYANNA ) SANYAKA( DAYANNA DDAYANNA
    GAYANNA JAYANNA ) TAALUJA( NAASIKYAYA SANYOOGA_NAAKSIKYAYA SAYANNA ) ) LITH_DIGIT( EIGHT FIVE
    FOUR NINE ONE SEVEN SIX THREE TWO ZERO ) SIGN( AL-LAKUNA ANUSVARAYA CANDRABINDU VISARGAYA )
    VOWEL_SIGN( AELA-PILLA GAETTA-PILLA GAYANUKITTA KOMBU_DEKA DIGA( AEDA-PILLA GAETTA-PILLA
    GAYANUKITTA IS-PILLA KOMBUVA PAA-PILLA ) KETTI( AEDA-PILLA IS-PILLA PAA-PILLA ) KOMBUVA=( HAA(
    AELA-PILLA DIGA_AELA-PILLA GAYANUKITTA ) ) ) ) SIX( PETALLED_BLACK_AND_WHITE_FLORETTE POINTED(
    STAR_WITH_MIDDLE_DOT BLACK/PINWHEEL( STAR ) ) ) SKULL=( AND_CROSSBONES ) SLANTED( EQUAL_TO_OR(
    GREATER-THAN/LESS-THAN=( WITH_DOT_INSIDE ) ) NORTH_ARROW_WITH( HOOKED_HEAD HORIZONTAL_TAIL ) )
    SLEEPING( ACCOMMODATION FACE SYMBOL ) SLIGHTLY( FROWNING/SMILING( FACE ) ) SLOPING_LARGE( AND
    OR ) SMALL( AIRPLANE AMPERSAND ASTERISK COLON COMMA COMMERCIAL_AT EM_DASH FULL_STOP
    HYPHEN-MINUS IDEOGRAPHIC_COMMA REVERSE_SOLIDUS SEMICOLON TILDE
    TWO_DOTS_OVER_ONE_DOT_PUNCTUATION VEE_WITH_UNDERBAR BLUE/ORANGE( DIAMOND ) CONTAINS( AS_MEMBER
    WITH( OVERBAR VERTICAL_BAR_AT_END_OF_HORIZONTAL_STROKE ) )
    DOLLAR/EQUALS/GREATER-THAN/LESS-THAN/NUMBER/PERCENT/PLUS( SIGN ) ELEMENT_OF=( WITH( OVERBAR
    VERTICAL_BAR_AT_END_OF_HORIZONTAL_STROKE ) ) EXCLAMATION/QUESTION( MARK ) LEFT/RIGHT(
    CURLY_BRACKET PARENTHESIS TORTOISE_SHELL_BRACKET ) ROMAN_NUMERAL( EIGHT ELEVEN FIFTY FOUR NINE
    SEVEN SIX TEN THREE TWELVE TWO FIVE=( HUNDRED ) ONE=( HUNDRED THOUSAND ) ) ) SMALLER_THAN=(
    OR_EQUAL_TO ) SMILING( CAT_FACE_WITH( HEART-SHAPED_EYES OPEN_MOUTH ) FACE_WITH( HALO
    HEART-SHAPED_EYES HORNS SUNGLASSES TEAR OPEN_MOUTH=( AND( COLD_SWEAT SMILING/TIGHTLY-CLOSED(
    EYES ) ) ) SMILING_EYES=( AND( HAND_COVERING_MOUTH THREE_HEARTS ) ) ) ) SNOWMAN=( WITHOUT_SNOW
    ) SOFT( HYPHEN ICE_CREAM SHELL_FLOPPY_DISK ) SOGDIAN( INDEPENDENT_SHIN COMBINING(
    LONG_HOOK_BELOW CURVE/DOT/HOOK( ABOVE BELOW ) RESH/STROKE( BELOW ) TWO_DOTS( ABOVE BELOW ) )
    LETTER( ALEPH AYIN BETH FETH GIMEL HE HETH KAPH LAMEDH LESH MEM NUN PE RESH-AYIN SADHE SAMEKH
    SHIN TAW WAW YODH ZAYIN ) NUMBER( TEN TWENTY ONE=( HUNDRED ) ) PUNCTUATION( CIRCLE_WITH_DOT
    HALF_CIRCLE_WITH_DOT TWO( CIRCLES_WITH_DOTS VERTICAL_BARS=( WITH_DOTS ) ) ) ) SOLIDUS=(
    WITH_OVERBAR ) SOLID_QUILT_SQUARE_ORNAMENT=( IN_BLACK_SQUARE ) SORA_SOMPENG( DIGIT( EIGHT FIVE
    FOUR NINE ONE SEVEN SIX THREE TWO ZERO ) LETTER( AH BAH CAH DAH EEH EH GAH HAH IH JAH KAH LAH
    MAE MAH NAH NGAH NYAH OH PAH RAH SAH TAH UH VAH YAH ) ) SOUTH( EAST( ARROW=(
    AND_SOUTH_WEST_ARROW CROSSING_NORTH_EAST_ARROW TO_CORNER WITH_HOOK )
    BLACK/DOUBLE/SANS-SERIF/WHITE( ARROW ) POINTING( BUD LEAF VINE_LEAF ) TRIANGLE-HEADED_ARROW=(
    TO_BAR ) ) WEST( ARROW=( AND_NORTH_WEST_ARROW WITH_HOOK ) BLACK/DOUBLE/SANS-SERIF/WHITE( ARROW
    ) POINTING( BUD LEAF VINE_LEAF ) TRIANGLE-HEADED_ARROW=( TO_BAR ) ) ) SOYOMBO( GEMINATION_MARK
    SUBJOINER CLUSTER-INITIAL_LETTER( LA RA SA SHA ) FINAL_CONSONANT_SIGN( -A B D G K L M N NG R S
    SH ) HEAD_MARK_WITH_MOON_AND_SUN=( AND( FLAME TRIPLE_FLAME ) ) LETTER( -A A BA BHA CA CHA DA
    DDA DDHA DHA DZA GA GHA HA JA JHA KA KHA KSSA LA MA NA NGA NNA NYA PA PHA RA SA SHA SSA TA THA
    TSA TSHA TTA TTHA VA YA ZA ZHA ) MARK( DOUBLE_SHAD PLUTA SHAD TSHEG ) SIGN( ANUSVARA
    JIHVAMULIYA UPADHMANIYA VISARGA ) TERMINAL( MARK-1 MARK-2 ) VOWEL( LENGTH_MARK SIGN( AI AU E I
    O OE U UE VOCALIC( L R ) ) ) ) SPEAKER=( WITH( CANCELLATION_STROKE ONE_SOUND_WAVE
    THREE_SOUND_WAVES ) ) SPHERICAL_ANGLE=( OPENING( LEFT UP ) ) SPIDER=( WEB ) SPIRAL( SHELL
    CALENDAR/NOTE( PAD ) ) SQUARE( AARU AM ANPEA APAATO ARUHUA AU BAARERU BAR BEETA BIRU BORUTO BQ
    BUSSYERU CAL CAP CC CD CO CORPORATION CUP C_OVER_KG DA DAASU DB DESI DJ DL DORU EEKAA ERG
    ESUKUUDO EV FM FOOT FOUR_CORNERS GAL GANMA GARON GB GHZ GIGA GINII GIRUDAA GPA GURAMU
    GURAMUTON GY HA HAITU HEKUTAARU HERUTU HG HIRAGANA_HOKA HON HOON HOORU HP HPA HUARADDO HUIITO
    HURAN HZ IN ININGU INTI IU KA KAIRI KARATTO KARORII KB KCAL KEESU KG KHZ KIRO KIROGURAMU
    KIROMEETORU KIROWATTO KK KL KOOPO KORUNA KPA KT KUROONE KURUZEIRO KV KW KYURII K_OHM LM LN LOG
    LOZENGE LX MA MAHHA MAIKURO MAIRU MANSYON MARUKU MEETORU MEGA MEGATON MG MHZ MIKURON MIL MIRI
    MIRIBAARU ML MOL MPA MS NA NANO NF NM NOTTO NS NV NW ONSU OOMU OV PAASENTO PAATU PC PEEZI
    PENIHI PENSU PESO PF PH PIASUTORU PIKO PIKURU PM POINTO PONDO POSITION_INDICATOR PPM PR PS PV
    PW REMU RENTOGEN RIRA RITTORU ROOT RUPII RUUBURU SAIKURU SANTIIMU SENTI SENTO SIRINGU SR SV
    TARGET THZ TON UON WATTO WB YAADO YAARU YUAN A/V( OVER_M ) CM/DM/MM=( CUBED SQUARED )
    ERA_NAME( HEISEI MEIZI REIWA SYOUWA TAISYOU ) IMAGE/ORIGINAL( OF=( OR( EQUAL_TO NOT_EQUAL_TO )
    ) ) KM=( CAPITAL CUBED SQUARED ) LEFT/RIGHT( OPEN_BOX_OPERATOR ) M( CUBED OHM SQUARED OVER_S=(
    SQUARED ) ) MB=( SMALL ) MU( A F G L M S V W ) MV/MW=( MEGA ) PA=( AMPS ) RAD=( OVER_S=(
    SQUARED ) ) WITH( CONTOURED_OUTLINE BOTTOM/LEFT/RIGHT/TOP( HALF_BLACK ) DIAGONAL/ORTHOGONAL(
    CROSSHATCH_FILL ) HORIZONTAL/VERTICAL( FILL ) LOWER( LEFT/RIGHT( DIAGONAL_HALF_BLACK ) )
    UPPER( LEFT( DIAGONAL_HALF_BLACK TO_LOWER_RIGHT_FILL ) RIGHT( DIAGONAL_HALF_BLACK
    TO_LOWER_LEFT_FILL ) ) ) ) SQUARED( ASTERISK CL COOL DOT_OPERATOR FREE HC HDR HI-RES HV ID KEY
    LOSSLESS MINUS MV NEW NG OK ONE_HUNDRED_TWENTY_P PLUS PPV SALTIRE SD SECOND_SCREEN SHV SIXTY_P
    SMALL_CIRCLE SOS SQUARE SS THREE_D TIMES TWENTY-TWO_POINT_TWO UHD UP_WITH_EXCLAMATION_MARK VOD
    VS WC CJK_UNIFIED( IDEOGRAPH-4E00 IDEOGRAPH-4E09 IDEOGRAPH-4E2D IDEOGRAPH-4E8C IDEOGRAPH-4EA4
    IDEOGRAPH-518D IDEOGRAPH-521D IDEOGRAPH-524D IDEOGRAPH-5272 IDEOGRAPH-53CC IDEOGRAPH-53F3
    IDEOGRAPH-5408 IDEOGRAPH-5439 IDEOGRAPH-55B6 IDEOGRAPH-58F0 IDEOGRAPH-591A IDEOGRAPH-5929
    IDEOGRAPH-5B57 IDEOGRAPH-5DE6 IDEOGRAPH-5F8C IDEOGRAPH-624B IDEOGRAPH-6253 IDEOGRAPH-6295
    IDEOGRAPH-6307 IDEOGRAPH-6355 IDEOGRAPH-6599 IDEOGRAPH-65B0 IDEOGRAPH-6620 IDEOGRAPH-6708
    IDEOGRAPH-6709 IDEOGRAPH-6E80 IDEOGRAPH-6F14 IDEOGRAPH-7121 IDEOGRAPH-751F IDEOGRAPH-7533
    IDEOGRAPH-7981 IDEOGRAPH-7A7A IDEOGRAPH-7D42 IDEOGRAPH-89E3 IDEOGRAPH-8CA9 IDEOGRAPH-8D70
    IDEOGRAPH-904A IDEOGRAPH-914D ) EIGHT/TWO( K ) FALLING/RISING( DIAGONAL_SLASH ) FIVE/SEVEN(
    POINT_ONE ) FOUR( DOT_PUNCTUATION K ) KATAKANA( DE KOKO SA ) LATIN( SMALL_LETTER_D
    CAPITAL_LETTER( A B C D E F G H I J K L M N O P Q R S T U V W X Y Z ) ) LOGICAL( AND OR ) )
    STAFF_OF( AESCULAPIUS HERMES ) STAR( AND_CRESCENT EQUALS OF_DAVID OPERATOR WITH( LEFT/RIGHT(
    HALF_BLACK ) ) ) START_OF( HEADING STRING TEXT GUARDED/PROTECTED/SELECTED( AREA ) )
    STICK_FIGURE=( LEANING( LEFT RIGHT ) WITH( ARMS_RAISED DRESS ) ) SUBSCRIPT( EIGHT FIVE FOUR
    MINUS NINE ONE SEVEN SIX THREE TWO ZERO EQUALS/PLUS( SIGN ) LEFT/RIGHT( PARENTHESIS ) )
    SUBSET( ABOVE( RIGHTWARDS_ARROW SUBSET SUPERSET ) OF=( WITH_NOT_EQUAL_TO ABOVE( EQUALS_SIGN
    TILDE_OPERATOR ALMOST/NOT( EQUAL_TO ) ) OR_EQUAL_TO=( WITH_DOT_ABOVE ) ) WITH( DOT
    MULTIPLICATION/PLUS( SIGN_BELOW ) ) ) SUCCEEDS=( BUT_NOT_EQUIVALENT_TO UNDER_RELATION ABOVE(
    ALMOST_EQUAL_TO EQUALS_SIGN NOT( ALMOST_EQUAL_TO EQUAL_TO ) SINGLE-LINE( EQUALS_SIGN
    NOT_EQUAL_TO ) ) OR( EQUAL/EQUIVALENT( TO ) ) ) SUMMATION( BOTTOM TOP WITH_INTEGRAL ) SUN=(
    BEHIND_CLOUD WITH_FACE ) SUNDANESE( AVAGRAHA CONSONANT_SIGN( PAMINGKAL PANYAKRA PANYIKU
    PASANGAN( MA WA ) ) DIGIT( EIGHT FIVE FOUR NINE ONE SEVEN SIX THREE TWO ZERO ) LETTER( A AE BA
    BHA CA DA E EU FA GA HA I JA KA KHA LA LEU MA NA NGA NYA O PA QA RA REU SA SYA TA U VA WA XA
    YA ZA FINAL( K M ) ) PUNCTUATION_BINDU( CAKRA PANGLONG PURNAMA SURYA BA/DA/KA/LEU( SATANGA ) )
    SIGN( PAMAAEH PANGLAYAR PANGWISAD PANYECEK VIRAMA ) VOWEL_SIGN( PAMEPET PANAELAENG PANEULEUNG
    PANGHULU PANOLONG PANYUKU ) ) SUNRISE=( OVER_MOUNTAINS ) SUPERSCRIPT( EIGHT FIVE FOUR MINUS
    NINE ONE SEVEN SIX THREE TWO ZERO EQUALS/PLUS( SIGN ) LATIN_SMALL_LETTER( I N ) LEFT/RIGHT(
    PARENTHESIS ) ) SUPERSET( PRECEDING_SOLIDUS ABOVE( LEFTWARDS_ARROW SUBSET SUPERSET ) BESIDE(
    AND_JOINED_BY_DASH_WITH_SUBSET SUBSET ) OF=( WITH_NOT_EQUAL_TO ABOVE( EQUALS_SIGN
    TILDE_OPERATOR ALMOST/NOT( EQUAL_TO ) ) OR_EQUAL_TO=( WITH_DOT_ABOVE ) ) WITH( DOT
    MULTIPLICATION/PLUS( SIGN_BELOW ) ) ) SYLOTI_NAGRI( LETTER( A BHO BO CHO CO DDHO DDO DHO DO E
    GHO GO HO I JHO JO KHO KO LO MO NO O PHO PO RO RRO SO THO TO TTHO TTO U ) POETRY( MARK-1:4 )
    SIGN( ALTERNATE_HASANTA ANUSVARA DVISVARA HASANTA ) VOWEL_SIGN( A E I OO U ) ) SYMBOL_FOR(
    ACKNOWLEDGE BACKSPACE BELL CANCEL CARRIAGE_RETURN DATA_LINK_ESCAPE ENQUIRY ESCAPE
    MARKS_CHAPTER NEGATIVE_ACKNOWLEDGE NEWLINE NULL SAMARITAN_SOURCE SPACE SYNCHRONOUS_IDLE
    TYPE_A_ELECTRONICS DELETE/SUBSTITUTE=( FORM_TWO ) DEVICE_CONTROL( FOUR ONE THREE TWO ) END_OF(
    MEDIUM TEXT TRANSMISSION=( BLOCK ) ) FILE/GROUP/RECORD/UNIT( SEPARATOR ) FORM/LINE( FEED )
    HORIZONTAL/VERTICAL( TABULATION ) SHIFT( IN OUT ) START_OF( HEADING TEXT ) ) SYRIAC(
    ABBREVIATION_MARK BARREKH CONTRACTION END_OF_PARAGRAPH FEMININE_DOT HBASA-ESASA_DOTTED
    HORIZONTAL_COLON MUSIC QUSHSHAYA RUKKAKHA RWAHA COLON_SKEWED( LEFT RIGHT ) DOTTED_ZLAMA(
    ANGULAR HORIZONTAL ) ESASA/HBASA/RBASA( ABOVE BELOW ) HARKLEAN( ASTERISCUS METOBELUS OBELUS )
    LETTER( ALAPH BETH DALATH DOTLESS_DALATH_RISH E FINAL_SEMKATH HE HETH KAPH LAMADH MIM NUN PE
    QAPH REVERSED_PE RISH SADHE SEMKATH SHIN SUPERSCRIPT_ALAPH TAW WAW ZAIN GAMAL/TETH=( GARSHUNI
    ) MALAYALAM( BHA JA LLA LLLA NGA NNA NNNA NYA RA SSA TTA ) PERSIAN( BHETH DHALATH GHAMAL )
    SOGDIAN( FE KHAPH ZHAIN ) YUDH=( HE ) ) OBLIQUE_LINE( ABOVE BELOW ) PTHAHA/ZQAPHA( ABOVE BELOW
    DOTTED ) SUBLINEAR( FULL_STOP COLON=( SKEWED( LEFT RIGHT ) ) ) SUPRALINEAR( FULL_STOP COLON=(
    SKEWED_LEFT ) ) THREE_DOTS( ABOVE BELOW ) TWO_VERTICAL_DOTS( ABOVE BELOW ) )"),
  ('T', "T-REX T-SHIRT TAB TABLE_TENNIS_PADDLE_AND_BALL TACO TAKEOUT_BOX TAMALE TANABATA_TREE TANGERINE
    TAURUS TAXI TEACUP_WITHOUT_HANDLE TEAPOT TEAR-OFF_CALENDAR TEARDROP-SPOKED_ASTERISK TEDDY_BEAR
    TELESCOPE TELEVISION TENNIS_RACQUET_AND_BALL TENT TEST_TUBE THEREFORE THERMODYNAMIC
    THERMOMETER THIRD_PLACE_MEDAL THONG_SANDAL THOUGHT_BALLOON THREE-PER-EM_SPACE THUNDERSTORM
    THUNDER_CLOUD_AND_RAIN TICKET TIE_OVER_INFINITY TIGHT_TRIFOLIATE_SNOWFLAKE TIMER_CLOCK TOILET
    TOKYO_TOWER TOMATO TONGUE TOOLBOX TOOTH TOOTHBRUSH TOTAL_RUNOUT TRACKBALL TRACTOR
    TRADE_MARK_SIGN TRAIN TRANSPLUTO TRANSVERSAL_INTERSECTION TRICOLON TRIDENT_EMBLEM TROLL
    TROLLEYBUS TROPHY TRUMPET TULIP TUMBLER_GLASS TURKEY TURKISH_LIRA_SIGN TURTLE
    TWELVE_POINTED_BLACK_STAR TWISTED_RIGHTWARDS_ARROWS TAG( AMPERSAND APOSTROPHE ASTERISK COLON
    COMMA COMMERCIAL_AT FULL_STOP HYPHEN-MINUS REVERSE_SOLIDUS SEMICOLON SOLIDUS SPACE TILDE
    CIRCUMFLEX/GRAVE( ACCENT ) DIGIT( EIGHT FIVE FOUR NINE ONE SEVEN SIX THREE TWO ZERO )
    DOLLAR/EQUALS/GREATER-THAN/LESS-THAN/NUMBER/PERCENT/PLUS( SIGN )
    EXCLAMATION/QUESTION/QUOTATION( MARK ) LATIN( CAPITAL/SMALL( LETTER( A B C D E F G H I J K L M
    N O P Q R S T U V W X Y Z ) ) ) LEFT/RIGHT( PARENTHESIS CURLY/SQUARE( BRACKET ) )
    LOW/VERTICAL( LINE ) ) TAGALOG( LETTER( A ARCHAIC_RA BA DA GA HA I KA LA MA NA NGA PA RA SA TA
    U WA YA ) SIGN( PAMUDPOD VIRAMA ) VOWEL_SIGN( I U ) ) TAGBANWA( LETTER( A BA DA GA I KA LA MA
    NA NGA PA SA TA U WA YA ) VOWEL_SIGN( I U ) ) TAI( LE_LETTER( A AI AUE E EE EH FA HA I KA KHA
    LA MA NA NGA O OO PA PHA QA SA TA THA TONE-2:6 TSA TSHA U UE VA XA YA ) THAM(
    COMBINING_CRYPTOGRAMMIC_DOT CONSONANT_SIGN( BA FINAL_NGA HIGH_RATHA_OR_LOW_PA LA_TANG_LAI
    LOW_PA MA SA MEDIAL( LA RA ) ) HORA/THAM( DIGIT( EIGHT FIVE FOUR NINE ONE SEVEN SIX THREE TWO
    ZERO ) ) LETTER( A BA DA EE GREAT_SA I II LA LAE LLA LUE MA NA NGA NYA OO RA RANA RATA RUE U
    UU WA HIGH( CA CHA FA HA KA KHA KXA PA PHA RATHA SA SHA SSA TA THA YA ) LOW( CA CHA FA HA KA
    KHA KXA PA PHA RATHA SA TA THA YA ) ) SIGN( CAANG DOKMAI HANG HOY KAAN KAANKUU KEOW
    KHUEN-LUE_KARAN RA_HAAM REVERSED_ROTATED_RANA SAKOT SATKAAN SATKAANKUU SAWAN TONE-1 TONE-2
    WIANG WIANGWAAK KHUEN( TONE-3:5 ) MAI( SAM YAMOK KANG=( LAI ) ) ) VOWEL_SIGN( A AA AE AI E I
    II MAI_SAT O OO OY TALL_AA THAM_AI U UE UU UUE OA( ABOVE BELOW ) ) ) VIET( LETTER( HIGH/LOW(
    BO CHO CO DO FO GO HO KHHO KHO KO LO MO NGO NO NYO O PHO PO RO SO THO TO VO YO ) ) MAI( KANG
    KHIT ) SYMBOL( HO_HOI KOI_KOI KON NUENG SAM ) TONE_MAI( EK NUENG SONG THO ) VOWEL( AA AM AN
    AUE AY E I IA O U UA UE UEA ) ) ) TAKRI( ABBREVIATION_SIGN DIGIT( EIGHT FIVE FOUR NINE ONE
    SEVEN SIX THREE TWO ZERO ) LETTER( A AA AI ARCHAIC_KHA AU BA BHA CA CHA DA DDA DDHA DHA E GA
    GHA HA I II JA JHA KA KHA LA MA NA NGA NNA NYA O PA PHA RA RRA SA SHA TA THA TTA TTHA U UU VA
    YA ) SIGN( ANUSVARA NUKTA VIRAMA VISARGA ) VOWEL_SIGN( AA AI AU E I II O U UU ) ) TALLY_MARK(
    FIVE ONE ) TAMIL( AND_ODD_SIGN AS_ABOVE_SIGN AU_LENGTH_MARK IN_POSSESSION_SIGN OM
    PUNCTUATION_END_OF_TEXT SALT_PAN_SIGN STARTING_FROM_SIGN
    CREDIT/CURRENT/DAY/DEBIT/LAND/MONTH/RUPEE/SPENT/TOTAL/YEAR( SIGN ) DIGIT( EIGHT FIVE FOUR NINE
    ONE SEVEN SIX THREE TWO ZERO ) DRY/WET( CULTIVATION_SIGN ) FRACTION( DOWNSCALING_FACTOR_KIIZH
    ONE( EIGHTH EIGHTIETH FIFTH FORTIETH HALF-1 HALF-2 ONE-HUNDRED-AND-SIXTIETH QUARTER
    SIXTEENTH-1 SIXTEENTH-2 SIXTY-FOURTH TENTH THIRTY-SECOND THREE-HUNDRED-AND-TWENTIETH TWENTIETH
    ) THREE( EIGHTIETHS QUARTERS SIXTEENTHS SIXTY-FOURTHS TWENTIETHS ) ) LETTER( A AA AI AU CA E
    EE HA I II JA KA LA LLA LLLA MA NA NGA NNA NNNA NYA O OO PA RA RRA SA SHA SSA TA TTA U UU VA
    YA ) NUMBER( SIGN TEN ONE( HUNDRED THOUSAND ) ) SIGN( AAZHAAKKU ANUSVARA CEVITU KAACU KURUNI
    KUZHI MUKKURUNI MUTHALIYA MUUVUZHAKKU NEL PAARAM PANAM PATHAKKU PON UZHAKKU VAKAIYARAA
    VARAAKAN VELI VIRAMA VISARGA ) TRADITIONAL( CREDIT/NUMBER( SIGN ) ) VOWEL_SIGN( AA AI AU E EE
    I II O OO U UU ) ) TANGSA( DIGIT( EIGHT FIVE FOUR NINE ONE SEVEN SIX THREE TWO ZERO ) LETTER(
    AC AQ AWC AWQ AWX AWZ AX AZ BA CA CHA DA DHA EC EQ EX EZ FA FINAL_NG GA GHA HA HTA HTTA IC IQ
    IX IZ KA KHA LA LONG_UEX MA MC MQ MX MZ NA NGA NHA NYA OC OQ OX OZ PA PHA RA SA SHA TA THA TSA
    UC UEC UEQ UEX UEZ UIC UIQ UIUC UIUQ UIUX UIUZ UIX UIZ UQ UX UZ VC VQ VX VZ WA XA YA ZA SHORT(
    AWX UEZ ) ) ) TANGUT( COMPONENT-001:099 COMPONENT-100:768 ITERATION_MARK ) TAPE( CARTRIDGE
    DRIVE ) TEARDROP-BARBED/TRIANGLE-HEADED( RIGHTWARDS_ARROW ) TELEPHONE( LOCATION_SIGN
    ON_TOP_OF_MODEM RECORDER SIGN RECEIVER=( WITH_PAGE ) ) TELUGU( AI_LENGTH_MARK LENGTH_MARK
    DIGIT( EIGHT FIVE FOUR NINE ONE SEVEN SIX THREE TWO ZERO ) FRACTION_DIGIT(
    ZERO_FOR_ODD_POWERS_OF_FOUR ONE/THREE/TWO( FOR( EVEN/ODD( POWERS_OF_FOUR ) ) ) ) LETTER( A AA
    AI AU BA BHA CA CHA DA DDA DDHA DHA DZA E EE GA GHA HA I II JA JHA KA KHA LA LLA LLLA MA NA
    NAKAARA_POLLU NGA NNA NYA O OO PA PHA RA RRA RRRA SA SHA SSA TA THA TSA TTA TTHA U UU VA YA
    VOCALIC( L LL R RR ) ) SIGN( ANUSVARA AVAGRAHA CANDRABINDU NUKTA SIDDHAM TUUMU VIRAMA VISARGA
    COMBINING( ANUSVARA/CANDRABINDU( ABOVE ) ) ) VOWEL_SIGN( AA AI AU E EE I II O OO U UU VOCALIC(
    L LL R RR ) ) ) TENGE/TUGRIK( SIGN ) TETRAGRAM_FOR( ACCUMULATION ADVANCE AGGRAVATION ASCENT
    BARRIER BOLD_RESOLUTION BRANCHING_OUT CENTRE CHANGE CLOSED_MOUTH CLOSENESS CLOSURE COMPLETION
    COMPLIANCE CONSTANCY CONTACT CONTENTION CONTRARIETY DARKENING DECISIVENESS
    DEFECTIVENESS_OR_DISTORTION DEPARTURE DIFFICULTIES DIMINISHMENT DIMMING DIVERGENCE DOUBT
    DUTIES EASE EMBELLISHMENT ENCOUNTERS ENDEAVOUR ENLARGEMENT ETERNITY EXHAUSTION FAILURE FLIGHT
    FOLLOWING FOSTERING FULLNESS FULL_CIRCLE GOING_TO_MEET GREATNESS GUARDEDNESS HARDNESS
    HOLDING_BACK INCREASE INNER JOY KEEPING_SMALL KINSHIP LABOURING LAW_OR_MODEL LEGION MASSING
    MEASURE MIRED ON_THE_VERGE OPPOSITION PACKING PATTERN PENETRATION PURITY REACH RELEASE
    RESIDENCE RESISTANCE RESPONSE RITUAL SEVERANCE SINKING STOPPAGE STOVE STRENGTH UNITY
    VASTNESS_OR_WASTING WAITING WATCH YOUTHFULNESS GATHERING=( IN ) ) THAANA( AABAAFILI ABAFILI
    EBEFILI EEBEEFILI EYBEYFILI IBIFILI OABOAFILI OBOFILI OOBOOFILI SUKUN UBUFILI LETTER( AINU
    ALIFU BAA CHAVIYANI DAADHU DAVIYANI DHAALU FAAFU GAAFU GHAINU GNAVIYANI HAA HHAA JAVIYANI
    KAAFU KHAA LAAMU LHAVIYANI MEEMU NAA NOONU PAVIYANI QAAFU RAA SAADHU SEENU SHAVIYANI SHEENU
    TAVIYANI THAA THAALU TO TTAA VAAVU WAAVU YAA ZAA ZAVIYANI ZO ) ) THAI( CURRENCY_SYMBOL_BAHT
    CHARACTER( ANGKHANKHU BO_BAIMAI FONGMAN KHOMUT KO_KAI LAKKHANGYAO LU MAITAIKHU MAIYAMOK MO_MA
    NGO_NGU NIKHAHIT O_ANG PAIYANNOI PHINTHU PO_PLA RO_RUA RU THANTHAKHAT WO_WAEN YAMAKKAN CHO(
    CHAN CHANG CHING CHOE ) DO( CHADA DEK ) FO( FA FAN ) HO( HIP NOKHUK ) KHO( KHAI KHON KHUAT
    KHWAI RAKHANG ) LO( CHULA LING ) MAI( CHATTAWA EK HAN-AKAT THO TRI ) NO( NEN NU ) PHO( PHAN
    PHUNG SAMPHAO ) SARA( A AA AE AM E I II O U UE UEE UU AI( MAIMALAI MAIMUAN ) ) SO( RUSI SALA
    SO SUA ) THO( NANGMONTHO PHUTHAO THAHAN THAN THONG THUNG ) TO( PATAK TAO ) YO( YAK YING ) )
    DIGIT( EIGHT FIVE FOUR NINE ONE SEVEN SIX THREE TWO ZERO ) ) THERE( DOES_NOT_EXIST EXISTS )
    THIN( GREEK_CROSS SALTIRE SPACE ) THINKING/TIRED( FACE ) THREE( BUTTON_MOUSE
    CONSECUTIVE_EQUALS_SIGNS DIMENSIONAL_ANGLE DOT_PUNCTUATION NETWORKED_COMPUTERS
    POINTED_BLACK_STAR SPEECH_BUBBLES LEFTWARDS/RIGHTWARDS( ARROWS ) LINES_CONVERGING( LEFT RIGHT
    ) RAYS( ABOVE BELOW LEFT RIGHT ) ) THREE-D( BOTTOM-LIGHTED_RIGHTWARDS_ARROWHEAD
    LEFT-LIGHTED_DOWNWARDS_EQUILATERAL_ARROWHEAD RIGHT-LIGHTED_UPWARDS_EQUILATERAL_ARROWHEAD
    TOP-LIGHTED( LEFTWARDS_EQUILATERAL_ARROWHEAD RIGHTWARDS( ARROWHEAD EQUILATERAL_ARROWHEAD ) ) )
    THREE-EM/TWO-EM( DASH ) THUMBS( DOWN/UP( SIGN ) ) TIBETAN( SYLLABLE_OM ASTROLOGICAL_SIGN(
    -KHYUD_PA SDONG_TSHUGS SGRA_GCAN_-CHAR_RTAGS ) CANTILLATION_SIGN( CANG_TE-U SBUB_-CHAL
    HEAVY/LIGHT( BEAT ) ) DIGIT( EIGHT FIVE FOUR NINE ONE SEVEN SIX THREE TWO ZERO HALF( EIGHT
    FIVE FOUR NINE ONE SEVEN SIX THREE TWO ZERO ) ) KU_RU_KHA=( BZHI_MIG_CAN ) LETTER( -A A BA BHA
    CA CHA DA DDA DDHA DHA DZA DZHA FIXED-FORM_RA GA GHA HA JA KA KHA KKA KSSA LA MA NA NGA NNA
    NYA PA PHA RA RRA SA SHA SSA TA THA TSA TSHA TTA TTHA WA YA ZA ZHA ) LOGOTYPE_SIGN( CHAD/LHAG(
    RTAGS ) ) MARK( BSDUS_RTAGS BSKA-_SHOG_GI_MGO_RGYAN BSKUR_YIG_MGO CHE_MGO
    DELIMITER_TSHEG_BSTAR HALANTA INTERSYLLABIC_TSHEG MNYAM_YIG_GI_MGO_RGYAN PALUTA RGYA_GRAM_SHAD
    RIN_CHEN_SPUNGS_SHAD SHAD TSA_-PHRU YIG_MGO_TSHEG_SHAD_MA ANG_KHANG( GYAS GYON ) BKA-_SHOG(
    GI_MGO_RGYAN YIG_MGO ) CARET( YIG_MGO_PHUR_SHAD_MA -DZUD_RTAGS( BZHI_MIG_CAN ME_LONG_CAN ) )
    CLOSING( BRDA_RNYING_YIG_MGO_SGAB_MA YIG_MGO_SGAB_MA ) GTER( TSHEG YIG_MGO( TRUNCATED_A -UM(
    GTER_TSHEG_MA RNAM_BCAD_MA ) ) ) GUG_RTAGS( GYAS GYON ) INITIAL( BRDA_RNYING_YIG_MGO_MDUN_MA
    YIG_MGO_MDUN_MA ) LEADING/TRAILING( MCHAN_RTAGS ) NGAS_BZUNG( NYI_ZLA SGOR_RTAGS ) NYIS( SHAD
    TSHEG=( SHAD ) ) SBRUL/TSHEG( SHAD ) ) SIGN( INVERTED_MCHU_CAN LCE_TSA_CAN MCHU_CAN
    NYI_ZLA_NAA_DA RJES_SU_NGA_RO RNAM_BCAD SNA_LDAN GRU( CAN/MED( RGYINGS ) ) LCI/YANG( RTAGS )
    MAR/YAR( TSHES ) RDEL( DKAR( GCIG GNYIS GSUM RDEL_NAG ) NAG( GCIG GNYIS GSUM RDEL_DKAR ) ) )
    SUBJOINED( LETTER( -A A BA BHA CA CHA DA DDA DDHA DHA DZA DZHA GA GHA HA JA KA KHA KSSA LA MA
    NA NGA NNA NYA PA PHA RA SA SHA SSA TA THA TSA TSHA TTA TTHA WA YA ZA ZHA FIXED-FORM( RA WA YA
    ) ) SIGN( INVERTED_MCHU_CAN LCE_TSA_CAN MCHU_CAN ) ) SYMBOL( DRIL_BU PADMA_GDAN PHUR_PA
    NOR_BU=( BZHI/GSUM/NYIS( -KHYIL ) ) RDO_RJE=( RGYA_GRAM ) ) VOWEL_SIGN( AA E EE I II O OO U UU
    REVERSED( I II ) VOCALIC( L LL R RR ) ) ) TIFINAGH( CONSONANT_JOINER
    MODIFIER_LETTER_LABIALIZATION_MARK SEPARATOR_MARK LETTER( AHAGGAR_YAZH AYER_YAGH
    TAWELLEMET_YAZ YA YAA YAB YABH YACH YAD YADD YADDH YADH YAF YAG YAGH YAGHH YAH YAHH YAJ YAK
    YAKH YAKHH YAL YAM YAN YAP YAQ YAR YARR YAS YASH YASS YAT YATH YATT YAV YAW YAY YAZ YAZH YAZZ
    YE YEY YI YO YU BERBER_ACADEMY( YAH YAJ ) TUAREG( YAGH YAGN YAH YAK YAKH YANG YAQ YAZH ) ) )
    TIGER=( FACE ) TILDE=( OPERATOR=( ABOVE( LEFTWARDS/RIGHTWARDS( ARROW ) ) WITH( DOT_ABOVE
    RISING_DOTS ) ) WITH( RING_ABOVE DOT( ABOVE BELOW ) ) ) TIMES_WITH( LEFT/RIGHT( HALF_BLACK ) )
    TINY=( TWO_DOTS_OVER_ONE_DOT_PUNCTUATION ) TIRHUTA( ABBREVIATION_SIGN ANJI GVANG OM DIGIT(
    EIGHT FIVE FOUR NINE ONE SEVEN SIX THREE TWO ZERO ) LETTER( A AA AI AU BA BHA CA CHA DA DDA
    DDHA DHA E GA GHA HA I II JA JHA KA KHA LA MA NA NGA NNA NYA O PA PHA RA SA SHA SSA TA THA TTA
    TTHA U UU VA YA VOCALIC( L LL R RR ) ) SIGN( ANUSVARA AVAGRAHA CANDRABINDU NUKTA VIRAMA
    VISARGA ) VOWEL_SIGN( AA AI AU E I II O U UU SHORT( E O ) VOCALIC( L LL R RR ) ) )
    TIRONIAN_SIGN( CAPITAL_ET ET ) TOP( HAT PARENTHESIS TORTOISE_SHELL_BRACKET
    WITH_UPWARDS_ARROW_ABOVE ARC( CLOCKWISE_ARROW_WITH_MINUS ANTICLOCKWISE_ARROW=( WITH_PLUS ) )
    CURLY/SQUARE( BRACKET ) HALF( BLACK_CIRCLE INTEGRAL SECTION_SIGN LEFT/RIGHT( PARENTHESIS ) )
    LEFT/RIGHT( CORNER CROP HALF_BRACKET ) ) TORTOISE_SHELL_BRACKETED( LATIN_CAPITAL_LETTER_S
    CJK_UNIFIED( IDEOGRAPH-4E09 IDEOGRAPH-4E8C IDEOGRAPH-52DD IDEOGRAPH-5B89 IDEOGRAPH-6253
    IDEOGRAPH-6557 IDEOGRAPH-672C IDEOGRAPH-70B9 IDEOGRAPH-76D7 ) ) TOTO( SIGN_RISING_TONE LETTER(
    A AE BA CHA DA E EO GA HA I IU JA KA LA MA NA NGA O PA RA SA TA U WA YA BREATHY( AE E EO I IU
    ) ) ) TRAM=( CAR ) TRIANGLE_WITH( DOT_ABOVE ROUNDED_CORNERS SERIFS_AT_BOTTOM UNDERBAR )
    TRIANGULAR( BULLET FLAG_ON_POST RULER ) TRIGRAM_FOR( EARTH FIRE HEAVEN LAKE MOUNTAIN THUNDER
    WATER WIND ) TRIPLE( COLON_OPERATOR DAGGER INTEGRAL PLUS PRIME SOLIDUS_BINARY_RELATION TILDE
    HORIZONTAL_BAR_WITH( DOUBLE/TRIPLE( VERTICAL_STROKE ) ) NESTED( GREATER-THAN LESS-THAN )
    VERTICAL_BAR( BINARY_RELATION DELIMITER RIGHT_TURNSTILE WITH_HORIZONTAL_STROKE ) ) TROPICAL(
    DRINK FISH ) TRUE=( LIGHT_MOON_ARTA ) TURNED( AMPERSAND ANGLE COMMA DAGGER
    GREEK_SMALL_LETTER_IOTA NOT_SIGN OK_HAND_SIGN SEMICOLON WHITE_SHOGI_PIECE BLACK( PENTAGON
    SHOGI_PIECE ) CAPITAL/SMALL( F ) DIGIT( THREE TWO ) NORTH/SOUTH( EAST/WEST( POINTING_LEAF ) )
    SANS-SERIF_CAPITAL( G L Y ) ) TWO( ASTERISKS_ALIGNED_VERTICALLY BUTTON_MOUSE
    CONSECUTIVE_EQUALS_SIGNS DOTS_OVER_ONE_DOT_PUNCTUATION HEARTS JOINED_SQUARES SPEECH_BUBBLES
    DOT( LEADER PUNCTUATION ) INTERSECTING_LOGICAL( AND OR ) LOGICAL( AND/OR( OPERATOR ) )
    MEN/WOMEN( HOLDING_HANDS ) )"),
  ('U', "UNCERTAINTY_SIGN UNDERTIE UNIT_SEPARATOR UNIVERSAL_RECYCLING_SYMBOL
    UNMARRIED_PARTNERSHIP_SYMBOL URANUS US UGARITIC( WORD_DIVIDER LETTER( AIN ALPA BETA DELTA DHAL
    GAMLA GHAIN HO HOTA I KAF KHA LAMDA MEM NUN PU QOPA RASHA SADE SAMKA SHIN SSU TET THANNA TO U
    WO YOD ZETA ZU ) ) UMBRELLA=( ON_GROUND WITH_RAIN_DROPS ) UNAMUSED/UNICORN/UPSIDE-DOWN( FACE )
    UNDO/UNITED( SYMBOL ) UNION=( BESIDE_AND_JOINED_WITH_UNION ABOVE( BAR_ABOVE_INTERSECTION
    INTERSECTION ) WITH( LOGICAL_OR MINUS_SIGN OVERBAR ) ) UP( ARROW_THROUGH_CIRCLE FISH_TAIL
    RIGHT_DIAGONAL_ELLIPSIS ARROWHEAD=( BETWEEN_TWO_HORIZONTAL_BARS IN_A_RECTANGLE_BOX ) BARB(
    LEFT/RIGHT( DOWN_BARB( LEFT/RIGHT( HARPOON ) ) ) ) DOWN( ARROW=( WITH_BASE )
    BLACK/DOUBLE/SANS-SERIF/TRIANGLE-HEADED/WHITE( ARROW ) ) TACK=( WITH_CIRCLE_ABOVE ) )
    UP-POINTING( AIRPLANE MILITARY_AIRPLANE RED_TRIANGLE SMALL( AIRPLANE RED_TRIANGLE )
    TRIANGLE_WITH( LEFT/RIGHT( HALF_BLACK ) ) ) UPPER( BLADE_SCISSORS TRIANGULAR_ONE_QUARTER_BLOCK
    AND( LEFT/RIGHT( AND_LOWER_TRIANGULAR_THREE_QUARTERS_BLOCK ) LOWER( ONE_EIGHTH_BLOCK
    TRIANGULAR_HALF_BLOCK ) ) FIVE/SEVEN( EIGHTHS_BLOCK ) HALF( CIRCLE MEDIUM_SHADE BLOCK=(
    AND_LOWER_HALF_INVERSE_MEDIUM_SHADE ) INVERSE( MEDIUM_SHADE_AND_LOWER_HALF_BLOCK WHITE_CIRCLE
    ) ) LEFT( CORNER_WITH_DOT OR_LOWER_RIGHT_CURLY_BRACKET_SECTION QUADRANT_CIRCULAR_ARC
    TO_LOWER_RIGHT_FILL TRIANGLE TRIANGULAR_MEDIUM_SHADE BLOCK_DIAGONAL( LOWER( CENTRE_TO(
    LOWER_MIDDLE_RIGHT UPPER( MIDDLE_RIGHT RIGHT ) ) LEFT_TO( LOWER_MIDDLE_RIGHT UPPER( CENTRE
    MIDDLE_RIGHT ) ) MIDDLE_LEFT_TO_UPPER( CENTRE MIDDLE_RIGHT RIGHT ) )
    UPPER_MIDDLE_LEFT_TO_UPPER( CENTRE RIGHT ) ) ) ONE( EIGHTH/QUARTER( BLOCK ) ) RIGHT(
    DROP-SHADOWED_WHITE_SQUARE OR_LOWER_LEFT_CURLY_BRACKET_SECTION PENCIL QUADRANT_CIRCULAR_ARC
    TO_LOWER_LEFT_FILL TRIANGLE TRIANGULAR_MEDIUM_SHADE BLOCK_DIAGONAL(
    LOWER_MIDDLE_LEFT_TO_LOWER( CENTRE RIGHT ) UPPER( CENTRE_TO( UPPER_MIDDLE_RIGHT LOWER(
    MIDDLE_RIGHT RIGHT ) ) LEFT_TO( UPPER_MIDDLE_RIGHT LOWER( CENTRE MIDDLE_RIGHT ) )
    MIDDLE_LEFT_TO_LOWER( CENTRE MIDDLE_RIGHT RIGHT ) ) ) SHADOWED_WHITE( CIRCLE SQUARE ) ) THREE(
    EIGHTHS/QUARTERS( BLOCK ) ) ) UPWARDS( ANCORA PAIRED_ARROWS ROCKET TRIANGLE_ARROWHEAD
    TWO_HEADED_ARROW ARROW=( AND_RIGHT_ONE_EIGHTH_BLOCK LEFTWARDS_OF_DOWNWARDS_ARROW FROM/TO( BAR
    ) WITH( EQUILATERAL_ARROWHEAD NOTCHED_TAIL DOUBLE/HORIZONTAL( STROKE ) LARGE/MEDIUM(
    TRIANGLE_ARROWHEAD ) SMALL( EQUILATERAL/TRIANGLE( ARROWHEAD ) ) TIP( LEFTWARDS RIGHTWARDS ) )
    ) BLACK( ARROW CIRCLED_WHITE_ARROW )
    COMPRESSED/DASHED/DOUBLE/FINGER-POST/QUADRUPLE/SANS-SERIF/SQUARED/TRIPLE( ARROW )
    HARPOON_WITH_BARB( LEFTWARDS RIGHTWARDS LEFT( BESIDE( DOWNWARDS/UPWARDS(
    HARPOON_WITH_BARB_RIGHT ) ) FROM/TO( BAR ) ) RIGHT( FROM/TO( BAR ) ) ) HEAVY( ARROW
    COMPRESSED_ARROW ) TRIANGLE-HEADED( DASHED_ARROW PAIRED_ARROWS ARROW=(
    LEFTWARDS_OF_DOWNWARDS_TRIANGLE-HEADED_ARROW TO_BAR WITH( DOUBLE_HORIZONTAL_STROKE
    VERY_HEAVY_SHAFT BOLD/HEAVY/MEDIUM/NARROW( SHAFT ) LONG_TIP( LEFTWARDS RIGHTWARDS ) ) ) )
    TWO-HEADED_ARROW( FROM_SMALL_CIRCLE WITH_TRIANGLE_ARROWHEADS ) WHITE( ARROW=(
    WITHIN_TRIANGLE_ARROWHEAD FROM_BAR=( WITH_HORIZONTAL_BAR ) ON_PEDESTAL=( WITH(
    HORIZONTAL/VERTICAL( BAR ) ) ) ) DOUBLE_ARROW=( ON_PEDESTAL ) ) )"),
  ('V', "VAMPIRE VECTOR_OR_CROSS_PRODUCT VERSICLE VESTA VIBRATION_MODE VICTORY_HAND VIDEOCASSETTE
    VIEWDATA_SQUARE VIOLIN VIRGO VOIDED_GREEK_CROSS VOLCANO VOLLEYBALL VOLUME_INTEGRAL VS100:256
    VS10:99 VS1:9 VT VTS VULCANUS VAI( COMMA FULL_STOP QUESTION_MARK DIGIT( EIGHT FIVE FOUR NINE
    ONE SEVEN SIX THREE TWO ZERO ) SYLLABLE( A AN BA BE BEE BHA BHE BHEE BHI BHO BHOO BHU BI BO
    BOO BU CA CE CEE CI CO COO CU DA DE DEE DHA DHE DHEE DHHA DHHE DHHEE DHHI DHHO DHHOO DHHU DHI
    DHO DHOO DHU DI DO DOO DU E EE EEN EN FA FE FEE FI FO FOO FU GA GBA GBE GBEE GBEN GBI GBO GBON
    GBOO GBU GE GEE GEN GI GO GOO GU HA HAN HE HEE HEN HI HIN HO HON HOO HU HUN I IN JA JE JEE JI
    JO JOO JU KA KAN KE KEE KI KO KOO KPA KPAN KPE KPEE KPEN KPI KPO KPOO KPU KU LA LE LEE
    LENGTHENER LI LO LOO LU MA MBA MBE MBEE MBI MBO MBOO MBU ME MEE MGBA MGBE MGBEE MGBI MGBO
    MGBOO MGBU MI MO MOO MU NA NDA NDE NDEE NDI NDO NDOO NDU NE NEE NG NGAN NGEN NGGA NGGE NGGEE
    NGGEN NGGI NGGO NGGOO NGGU NGON NI NJA NJE NJEE NJI NJO NJOO NJU NO NOO NU NYA NYE NYEE NYI
    NYO NYOO NYU O ON OO OON PA PE PEE PI PO POO PU RA RE REE RI RO ROO RU SA SE SEE SHA SHE SHEE
    SHI SHO SHOO SHU SI SO SOO SU TA TE TEE THA THE THEE THI THO THOO THU TI TO TOO TU U UN VA VE
    VEE VI VO VOO VU WA WAN WE WEE WEEN WEN WI WIN WO WON WOO WOON WU WUN YA YE YEE YI YO YOO YU
    ZA ZE ZEE ZHA ZHE ZHEE ZHI ZHO ZHOO ZHU ZI ZO ZOO ZU NDOLE( DO FA KA MA SOO ) ) SYMBOL( BANG
    DANG DO-O DOONG FAA FEENG JONG KEENG KUNG NII TAA TING TONG ) ) VARIATION( SELECTOR-100:256
    SELECTOR-10:99 SELECTOR-1:9 ) VEDIC( SIGN( ARDHAVISARGA ATIKRAMA DOUBLE_ANUSVARA_ANTARGOMUKHA
    JIHVAMULIYA LONG_ANUSVARA NIHSHVASA ROTATED_ARDHAVISARGA TIRYAK UPADHMANIYA
    YAJURVEDIC_MIDLINE_SVARITA ANUSVARA( ANTARGOMUKHA BAHIRGOMUKHA UBHAYATO_MUKHA VAMAGOMUKHA=(
    WITH_TAIL ) ) HEXIFORM/RTHANG( LONG_ANUSVARA ) REVERSED_VISARGA( ANUDATTA UDATTA ) VISARGA(
    SVARITA ANUDATTA/UDATTA=( WITH_TAIL ) ) ) TONE( ATHARVAVEDIC_INDEPENDENT_SVARITA DOT_BELOW
    KARSHANA KATHAKA_ANUDATTA PRENKHA RIGVEDIC_KASHMIRI_INDEPENDENT_SVARITA RING_ABOVE SHARA
    TRIPLE_SVARITA CANDRA( ABOVE BELOW ) DOUBLE( RING_ABOVE SVARITA ) THREE/TWO( DOTS_BELOW )
    YAJURVEDIC( AGGRAVATED_INDEPENDENT_SVARITA INDEPENDENT_SVARITA KATHAKA_INDEPENDENT_SVARITA=(
    SCHROEDER ) ) ) ) VERTICAL( ELLIPSIS IDEOGRAPHIC_ITERATION_MARK MALE_WITH_STROKE_SIGN TAB_KEY
    TILDE TRAFFIC_LIGHT ZIGZAG_LINE BAR( BESIDE_RIGHT_TRIANGLE DOUBLE_LEFT_TURNSTILE
    TRIPLE_RIGHT_TURNSTILE WITH_HORIZONTAL_STROKE ) FOUR/SIX( DOTS ) KANA_REPEAT( MARK=(
    LOWER/UPPER( HALF ) ) WITH_VOICED_SOUND_MARK=( UPPER_HALF ) ) LINE=( EXTENSION WITH(
    MIDDLE_DOT CIRCLE( ABOVE BELOW ) ) ) ONE_EIGHTH( BLOCK-2:7 ) TABULATION=( SET ) ) VERY(
    BOLD_GREEK_CROSS HEAVY( GREEK_CROSS REVERSE_SOLIDUS SALTIRE SOLIDUS EIGHT( POINTED_BLACK_STAR
    SPOKED_ASTERISK ) FIVE/SIX( SPOKED_ASTERISK ) WHITE( CIRCLE SQUARE ) ) MUCH( GREATER-THAN
    LESS-THAN ) ) VIDEO( CAMERA GAME ) VIETNAMESE_ALTERNATE_READING_MARK( CA NHAY ) VITHKUQI(
    CAPITAL/SMALL( LETTER( A BBE BE CE CHE DE DHE E EI FE GA HA HHA I IJE JE KA LA LLA ME NE NJE O
    PE QA RE SE SHE TE THE U VE XE Y ZE ) ) ) VULGAR_FRACTION( FOUR_FIFTHS SEVEN_EIGHTHS
    ZERO_THIRDS FIVE( EIGHTHS SIXTHS ) ONE( EIGHTH FIFTH HALF NINTH QUARTER SEVENTH SIXTH TENTH
    THIRD ) THREE( EIGHTHS FIFTHS QUARTERS ) TWO( FIFTHS THIRDS ) )"),
  ('W', "WAFFLE WASTEBASKET WATCH WATERMELON WEDDING WEIERSTRASS_ELLIPTIC_FUNCTION WEIGHT_LIFTER
    WEST_SYRIAC_CROSS WHALE WIGGLY_VERTICAL_LINE WILTED_FLOWER WINDOW WINE_GLASS WIRED_KEYBOARD WJ
    WOOD WORLD_MAP WORM WRAPPED_PRESENT WREATH_PRODUCT WRENCH WRESTLERS WRITING_HAND WANCHO(
    NGUN_SIGN DIGIT( EIGHT FIVE FOUR NINE ONE SEVEN SIX THREE TWO ZERO ) LETTER( A AA AAN AANG ANG
    AU BA CA DA E EN FA GA HA I ING JA KA KHA LA LLHA MA NA NGA NYA O ON ONG PA PHA RA SA SHA TA
    THA TRA TSA U UEN VA WA YA YIH ZA ) TONE( KOI KOINI TUP TUPNI ) ) WANING/WAXING(
    CRESCENT/GIBBOUS( MOON_SYMBOL ) ) WARANG_CITI( OM CAPITAL/SMALL( LETTER( A AM ANG AT BU DA E
    ENN ENY GA HAR HIYO HOLO HORR II KO NGAA NUNG O ODD PU SII SSUU TTE UC UU VIYO WI YA YO YU YUJ
    ) ) DIGIT( EIGHT FIVE FOUR NINE ONE SEVEN SIX THREE TWO ZERO ) NUMBER( EIGHTY FIFTY FORTY
    NINETY SEVENTY SIXTY TEN THIRTY TWENTY ) ) WARNING/WON( SIGN ) WATER( BUFFALO CLOSET POLO WAVE
    ) WAVE( DASH ARROW_POINTING_DIRECTLY( LEFT RIGHT ) ) WAVING( HAND_SIGN BLACK/WHITE( FLAG ) )
    WAVY( DASH LINE LOW_LINE OVERLINE ) WEARY( CAT_FACE FACE ) WEDGE-TAILED/WHITE-FEATHERED(
    RIGHTWARDS_ARROW ) WHEEL=( OF_DHARMA ) WHEELCHAIR/WOMENS( SYMBOL ) WHITE( BULLET FLORETTE
    FLOWER HARD_SHELL_FLOPPY_DISK HEXAGON HORIZONTAL_ELLIPSE HOURGLASS LARGE_SQUARE LATIN_CROSS
    LOZENGE_CONTAINING_BLACK_SMALL_LOZENGE MOON_SELENA NIB PARALLELOGRAM PENNANT PENTAGON
    RECTANGLE SCISSORS SESAME_DOT SHOGI_PIECE STAR TELEPHONE TOUCHTONE_TELEPHONE TRAPEZIUM
    TRIANGLE_CONTAINING_SMALL_WHITE_TRIANGLE TWO-WAY_LEFT_WAY_TRAFFIC VERY_SMALL_SQUARE
    ARROW_SHAFT_WIDTH( ONE TWO_THIRDS ) CHESS( KNIGHT-BISHOP KNIGHT-QUEEN KNIGHT-ROOK
    BISHOP/KING/PAWN/QUEEN/ROOK=( ROTATED( NINETY_DEGREES TWO_HUNDRED_SEVENTY_DEGREES ) )
    EQUIHOPPER=( ROTATED_NINETY_DEGREES ) KNIGHT=( ROTATED( ONE_HUNDRED_THIRTY-FIVE_DEGREES
    THREE_HUNDRED_FIFTEEN_DEGREES FORTY-FIVE/NINETY( DEGREES ) TWO_HUNDRED( SEVENTY/TWENTY-FIVE(
    DEGREES ) ) ) ) TURNED( BISHOP KING KNIGHT PAWN QUEEN ROOK ) ) CIRCLE=(
    CONTAINING_BLACK_SMALL_CIRCLE WITH( DOT_RIGHT DOWN_ARROW TWO_DOTS LOWER/UPPER( LEFT/RIGHT(
    QUADRANT ) ) ) ) CLUB/SPADE( SUIT ) CONCAVE-SIDED_DIAMOND=( WITH( LEFTWARDS/RIGHTWARDS( TICK )
    ) ) DIAMOND=( IN_SQUARE SUIT WITH_CENTRED_DOT CONTAINING_BLACK( VERY_SMALL_DIAMOND
    MEDIUM/SMALL( DIAMOND ) ) ) DOWN-POINTING( SMALL_TRIANGLE TRIANGLE ) DOWN_POINTING(
    BACKHAND_INDEX INDEX LEFT_HAND_INDEX ) DRAUGHTS( KING MAN ) EXCLAMATION/QUESTION(
    MARK_ORNAMENT ) FLAG=( WITH_HORIZONTAL_MIDDLE_BLACK_STRIPE ) FOUR_POINTED( CUSP STAR )
    FROWNING/SMILING( FACE ) HEART=( SUIT ) HEAVY( CHECK_MARK SALTIRE_WITH_ROUNDED_CORNERS ) LEFT(
    LANE_MERGE POINTING( BACKHAND_INDEX INDEX ) ) LEFT-POINTING( POINTER SMALL_TRIANGLE TRIANGLE )
    MEDIUM( DIAMOND LOZENGE SMALL_SQUARE SQUARE STAR ) RIGHT/UP( POINTING( BACKHAND_INDEX INDEX )
    ) RIGHT-POINTING( PENTAGON POINTER SMALL_TRIANGLE TRIANGLE ) SMALL( LOZENGE SQUARE STAR )
    SQUARE=( BUTTON CONTAINING_BLACK( VERY_SMALL_SQUARE MEDIUM/SMALL( SQUARE ) ) WITH(
    CENTRE_VERTICAL_LINE ROUNDED_CORNERS VERTICAL_BISECTING_LINE LEFTWARDS/RIGHTWARDS( TICK )
    LOWER/UPPER( LEFT/RIGHT( QUADRANT ) ) ) ) SUN=( BEHIND_CLOUD=( WITH_RAIN ) WITH( RAYS
    SMALL_CLOUD ) ) UP-POINTING( CHEVRON SMALL_TRIANGLE TRIANGLE=( WITH_DOT ) ) VERTICAL( BAR
    ELLIPSE RECTANGLE ) ) WIDE-HEADED( DOWNWARDS/LEFTWARDS/RIGHTWARDS/UPWARDS( BARB_ARROW
    VERY_HEAVY_BARB_ARROW HEAVY/LIGHT/MEDIUM( BARB_ARROW ) ) NORTH/SOUTH( EAST/WEST( BARB_ARROW
    VERY_HEAVY_BARB_ARROW HEAVY/LIGHT/MEDIUM( BARB_ARROW ) ) ) ) WIND( BLOWING_FACE CHIME )
    WINKING/WOLF/WORRIED( FACE ) WOMAN=( WITH_BUNNY_EARS ) WOMANS( BOOTS CLOTHES HAT SANDAL )
    WORD( JOINER SEPARATOR_MIDDLE_DOT )"),
  ('X', "X-RAY XOR X_IN_A_RECTANGLE_BOX XIANGQI( BLACK/RED( CANNON CHARIOT ELEPHANT GENERAL HORSE
    MANDARIN SOLDIER ) )"),
  ('Y', "YAWNING_FACE YELLOW_HEART YEN_SIGN YIN_YANG YO-YO YEZIDI( HYPHENATION_MARK COMBINING(
    HAMZA/MADDA( MARK ) ) LETTER( BE CHHIM CHIM CIM DAD DAL ELIF ET EW EYN FA GAF HAY HHA JA KAF
    KHAF MIM NUN OW PE PHE QAF RA RHA SAD SE SHIN SIN TA THE UM WAW XA XHEYN ZA ZAL ZE LAM=(
    WITH_DOT_ABOVE ) VA=( ALTERNATE_FORM ) YOT=( WITH_CIRCUMFLEX_ABOVE ) ) ) YI( RADICAL( BBUT BUR
    CHE CIP CUOP CY CYP CYT DDUR DU GA GEP GGOP GGUO GOT HMO HXIT HXOP HXUO JJIE JJUT JJY JO KE
    KIT LI LIE LYR MI MOP NBIE NYIP NYOP NZUP OP PUT PYT QOT SHAT SHOP SHUR SHY SSI TAT TU VEP VUR
    WO YIT YO ZA ZOT ZUP ZUR ZZIET ) SYLLABLE( A AP AT AX BA BAP BAT BAX BBA BBAP BBAT BBAX BBE
    BBEP BBEX BBI BBIE BBIEP BBIET BBIEX BBIP BBIT BBIX BBO BBOP BBOT BBOX BBU BBUO BBUOP BBUOX
    BBUP BBUR BBURX BBUT BBUX BBY BBYP BBYT BBYX BE BEP BEX BI BIE BIEP BIET BIEX BIP BIT BIX BO
    BOP BOT BOX BU BUO BUOP BUOX BUP BUR BURX BUT BUX BY BYP BYR BYRX BYT BYX CA CAP CAT CAX CE
    CEP CEX CHA CHAP CHAT CHAX CHE CHEP CHET CHEX CHO CHOP CHOT CHOX CHU CHUO CHUOP CHUOT CHUOX
    CHUP CHUR CHURX CHUX CHY CHYP CHYR CHYRX CHYT CHYX CI CIE CIEP CIET CIEX CIP CIT CIX CO COP
    COT COX CU CUO CUOP CUOX CUP CUR CURX CUT CUX CY CYP CYR CYRX CYT CYX DA DAP DAT DAX DDA DDAP
    DDAT DDAX DDE DDEP DDEX DDI DDIE DDIEP DDIEX DDIP DDIT DDIX DDO DDOP DDOT DDOX DDU DDUO DDUOP
    DDUOX DDUP DDUR DDURX DDUT DDUX DE DEP DEX DI DIE DIEP DIEX DIP DIT DIX DO DOP DOT DOX DU DUO
    DUOX DUP DUR DURX DUT DUX E EX FA FAP FAT FAX FI FIP FIT FIX FO FOP FOX FU FUP FUR FURX FUT
    FUX FY FYP FYT FYX GA GAP GAT GAX GE GEP GET GEX GGA GGAP GGAT GGAX GGE GGEP GGET GGEX GGI
    GGIE GGIEP GGIEX GGIT GGIX GGO GGOP GGOT GGOX GGU GGUO GGUOP GGUOT GGUOX GGUP GGUR GGURX GGUT
    GGUX GI GIE GIEP GIET GIEX GIP GIT GIX GO GOP GOT GOX GU GUO GUOP GUOT GUOX GUP GUR GURX GUT
    GUX HA HAP HAT HAX HE HEP HEX HIE HIEX HIT HLA HLAP HLAT HLAX HLE HLEP HLEX HLI HLIE HLIEP
    HLIEX HLIP HLIT HLIX HLO HLOP HLOX HLU HLUO HLUOP HLUOX HLUP HLUR HLURX HLUT HLUX HLY HLYP
    HLYR HLYRX HLYT HLYX HMA HMAP HMAT HMAX HMI HMIE HMIEP HMIEX HMIP HMIT HMIX HMO HMOP HMOT HMOX
    HMU HMUO HMUOP HMUOX HMUP HMUR HMURX HMUT HMUX HMY HMYP HMYR HMYRX HMYX HNA HNAP HNAT HNAX HNE
    HNEP HNEX HNI HNIE HNIEP HNIET HNIEX HNIP HNIT HNIX HNOP HNOT HNOX HNUO HNUOX HNUT HO HOP HOT
    HOX HUO HUOP HUOT HUOX HXA HXAP HXAT HXAX HXE HXEP HXEX HXI HXIE HXIEP HXIET HXIEX HXIP HXIT
    HXIX HXO HXOP HXOT HXOX HXUO HXUOP HXUOT HXUOX I IE IEP IET IEX IP IT ITERATION_MARK IX JI JIE
    JIEP JIET JIEX JIP JIT JIX JJI JJIE JJIEP JJIET JJIEX JJIP JJIT JJIX JJO JJOP JJOT JJOX JJU
    JJUO JJUOP JJUOX JJUP JJUR JJURX JJUT JJUX JJY JJYP JJYT JJYX JO JOP JOT JOX JU JUO JUOP JUOT
    JUOX JUP JUR JURX JUT JUX JY JYP JYR JYRX JYT JYX KA KAP KAT KAX KE KEP KET KEX KI KIE KIEP
    KIEX KIP KIT KIX KO KOP KOT KOX KU KUO KUOP KUOX KUP KUR KURX KUT KUX LA LAP LAT LAX LE LEP
    LEX LI LIE LIEP LIET LIEX LIP LIT LIX LO LOP LOT LOX LU LUO LUOP LUOT LUOX LUP LUR LURX LUT
    LUX LY LYP LYR LYRX LYT LYX MA MAP MAT MAX ME MEX MGA MGAP MGAT MGAX MGE MGEP MGEX MGIE MGIEX
    MGO MGOP MGOT MGOX MGU MGUO MGUOP MGUOX MGUP MGUR MGURX MGUT MGUX MI MIE MIEP MIEX MIP MIT MIX
    MO MOP MOT MOX MU MUO MUOP MUOT MUOX MUP MUR MURX MUT MUX MY MYP MYT MYX NA NAP NAX NBA NBAP
    NBAT NBAX NBI NBIE NBIEP NBIEX NBIP NBIT NBIX NBO NBOP NBOT NBOX NBU NBUP NBUR NBURX NBUT NBUX
    NBY NBYP NBYR NBYRX NBYT NBYX NDA NDAP NDAT NDAX NDE NDEP NDEX NDI NDIE NDIEX NDIP NDIT NDIX
    NDO NDOP NDOT NDOX NDU NDUP NDUR NDURX NDUT NDUX NE NEP NEX NGA NGAP NGAT NGAX NGE NGEP NGEX
    NGIE NGIEP NGIEX NGO NGOP NGOT NGOX NGUO NGUOT NGUOX NI NIE NIEP NIEX NIP NIT NIX NJI NJIE
    NJIEP NJIET NJIEX NJIP NJIT NJIX NJO NJOP NJOT NJOX NJU NJUO NJUOX NJUP NJUR NJURX NJUX NJY
    NJYP NJYR NJYRX NJYT NJYX NO NOP NOT NOX NRA NRAP NRAT NRAX NRE NREP NRET NREX NRO NROP NROX
    NRU NRUP NRUR NRURX NRUT NRUX NRY NRYP NRYR NRYRX NRYT NRYX NU NUO NUOP NUOX NUP NUR NURX NUT
    NUX NYI NYIE NYIEP NYIET NYIEX NYIP NYIT NYIX NYO NYOP NYOT NYOX NYU NYUO NYUOP NYUOX NYUP
    NYUT NYUX NZA NZAP NZAT NZAX NZE NZEX NZI NZIE NZIEP NZIEX NZIP NZIT NZIX NZOP NZOX NZU NZUO
    NZUOX NZUP NZUR NZURX NZUX NZY NZYP NZYR NZYRX NZYT NZYX O OP OT OX PA PAP PAT PAX PI PIE PIEP
    PIEX PIP PIT PIX PO POP POT POX PU PUO PUOP PUOX PUP PUR PURX PUT PUX PY PYP PYR PYRX PYT PYX
    QI QIE QIEP QIET QIEX QIP QIT QIX QO QOP QOT QOX QU QUO QUOP QUOT QUOX QUP QUR QURX QUT QUX QY
    QYP QYR QYRX QYT QYX RA RAP RAT RAX RE REP REX RO ROP ROT ROX RRA RRAX RRE RREP RRET RREX RRO
    RROP RROT RROX RRU RRUO RRUOX RRUP RRUR RRURX RRUT RRUX RRY RRYP RRYR RRYRX RRYT RRYX RU RUO
    RUOP RUOX RUP RUR RURX RUT RUX RY RYP RYR RYRX RYT RYX SA SAP SAT SAX SE SEP SEX SHA SHAP SHAT
    SHAX SHE SHEP SHET SHEX SHO SHOP SHOT SHOX SHU SHUO SHUOP SHUOX SHUP SHUR SHURX SHUT SHUX SHY
    SHYP SHYR SHYRX SHYT SHYX SI SIE SIEP SIEX SIP SIT SIX SO SOP SOT SOX SSA SSAP SSAT SSAX SSE
    SSEP SSEX SSI SSIE SSIEP SSIEX SSIP SSIT SSIX SSO SSOP SSOT SSOX SSU SSUP SSUT SSUX SSY SSYP
    SSYR SSYRX SSYT SSYX SU SUO SUOP SUOX SUP SUR SURX SUT SUX SY SYP SYR SYRX SYT SYX TA TAP TAT
    TAX TE TEP TEX TI TIE TIEP TIEX TIP TIT TIX TO TOP TOT TOX TU TUO TUOP TUOT TUOX TUP TUR TURX
    TUT TUX UO UOP UOX VA VAP VAT VAX VEP VEX VI VIE VIEP VIET VIEX VIP VIT VIX VO VOP VOT VOX VU
    VUP VUR VURX VUT VUX VY VYP VYR VYRX VYT VYX WA WAP WAT WAX WE WEP WEX WO WOP WOX WU WUO WUOP
    WUOX XI XIE XIEP XIET XIEX XIP XIT XIX XO XOP XOT XOX XUO XUOX XY XYP XYR XYRX XYT XYX YI YIE
    YIEP YIET YIEX YIP YIT YIX YO YOP YOT YOX YU YUO YUOP YUOT YUOX YUP YUR YURX YUT YUX YY YYP
    YYR YYRX YYT YYX ZA ZAP ZAT ZAX ZE ZEP ZEX ZHA ZHAP ZHAT ZHAX ZHE ZHEP ZHET ZHEX ZHO ZHOP ZHOT
    ZHOX ZHU ZHUO ZHUOP ZHUOX ZHUP ZHUR ZHURX ZHUT ZHUX ZHY ZHYP ZHYR ZHYRX ZHYT ZHYX ZI ZIE ZIEP
    ZIEX ZIP ZIT ZIX ZO ZOP ZOT ZOX ZU ZUO ZUOP ZUOX ZUP ZUR ZURX ZUT ZUX ZY ZYP ZYR ZYRX ZYT ZYX
    ZZA ZZAP ZZAT ZZAX ZZE ZZEP ZZEX ZZI ZZIE ZZIEP ZZIET ZZIEX ZZIP ZZIT ZZIX ZZO ZZOP ZZOX ZZU
    ZZUP ZZUR ZZURX ZZUX ZZY ZZYP ZZYR ZZYRX ZZYT ZZYX ) )"),
  ('Z', "ZEUS ZOMBIE ZWJ ZWNBSP ZWNJ ZWSP ZANABAZAR_SQUARE( CLUSTER-INITIAL_LETTER_RA
    FINAL_CONSONANT_MARK SUBJOINER CLOSING/INITIAL( DOUBLE-LINED_HEAD_MARK HEAD_MARK )
    CLUSTER-FINAL_LETTER( LA RA VA YA ) LETTER( -A A BA BHA CA CHA DA DDA DDHA DHA DZA DZHA GA GHA
    HA JA KA KHA KSSA LA MA NA NGA NNA NYA PA PHA RA SA SHA SSA TA THA TSA TSHA TTA TTHA VA YA ZA
    ZHA ) MARK( DOUBLE_SHAD LONG_TSHEG SHAD TSHEG ) SIGN( ANUSVARA CANDRA_WITH_ORNAMENT VIRAMA
    VISARGA CANDRABINDU=( WITH_ORNAMENT ) ) VOWEL( LENGTH_MARK SIGN( AI AU E I O OE REVERSED_I U
    UE ) ) ) ZEBRA/ZIPPER-MOUTH( FACE ) ZERO_WIDTH( JOINER NO-BREAK_SPACE NON-JOINER SPACE )
    ZNAMENNY( COMBINING( ATTACHING_VERTICAL_OMET LOWER_TONAL_RANGE_INDICATOR MARK( BORZAYA
    CURVED_OMET DEMESTVENNY_ZADERZHKA DVOETOCHIE KACHKA KUPNAYA LOMKA OBLACHKO ON OTSECHKA
    PODVERTKA RAVNO RAZSEKA SKOBA SOROCHYA_NOZHKA STRANNO_MALO_POVYSHE TIKHAYA TOCHKA UDARKA
    ZADERZHKA ZELO ZEVOK CHASHKA=( POLNAYA ) GORAZDO( VYSOKO NIZKO( ON( LEFT RIGHT ) S_KRYZHEM_ON(
    LEFT RIGHT ) ) ) KRYZH=( ON_LEFT ) MALO_POVYSHE( STRANNO ON( LEFT RIGHT ) S( KRYZHEM
    KHOKHLOM_ON( LEFT RIGHT ) ) ) NIZKO( ON( LEFT RIGHT ) S_KRYZHEM_ON( LEFT RIGHT ) )
    PODCHASHIE=( WITH_VERTICAL_STROKE ) POVYSHE( STRANNO ON( LEFT RIGHT ) S( KRYZHEM KHOKHLOM_ON(
    LEFT RIGHT ) ) ) SREDNE_ON( LEFT RIGHT ) TSATA( S_KRYZHEM ON( LEFT RIGHT ) ) VYSOKO( ON( LEFT
    RIGHT ) S( KRYZHEM KHOKHLOM_ON( LEFT RIGHT ) ) ) ) TONAL_RANGE_MARK( MRACHNO SVETLO TRESVETLO
    ) ) NEUME( CHASHKA CHELYUSTKA DEMESTVENNY_KLYUCH DERBITSA DOUBLE_ZAPYATAYA DUDA DVA_V_CHELNU
    FITA KHAMILO KLYUCH KOBYLA KRYZH KUFISMA NEMKA OBLAKO PALKA PARAKLIT PAUK PODCHASHIE
    POLKULIZMY REVERSED_CHELYUSTKA ROG ZANOZHEK ZAPYATAYA ZMEYTSA GOLUBCHIK( BORZY MRACHNY SVETLY
    TIKHY TRESVETLY ) KRYUK=( TIKHY ) MECHIK=( KLYUCHENEPOSTOYANNY KLYUCHEPOVODNY KLYUCHEVOY
    POVODNY ) OSOKA=( KRYUKOVAYA_SVETLAYA SVETLAYA TRESVETLAYA KLYUCHEVAYA( NEPOSTOYANNAYA
    SVETLAYA ) ) PEREVODKA=( NEPOSTOYANNAYA ) SKAMEYTSA( KLYUCHENEPOSTOYANNAYA MRACHNAYA SVETLAYA
    TIKHAYA TRESVETLAYA DVOECHELNAYA( KLYUCHEVAYA NEPOSTOYANNAYA PROSTAYA SVETLAYA ) KLYUCHEVAYA(
    SVETLAYA TIKHAYA ) ) SLOZHITIE=( ZAKRYTOE S( KRYZHEM ZAPYATOY ) ) STATYA=( NEPOSTOYANNAYA S(
    DVUMYA_ZAPYATYMI ROGOM KRYZHEM=( I_ZAPYATOY ) ZAPYATOY=( I( KRYZHEM PODCHASHIEM ) ) )
    ZAKRYTAYA=( S_ZAPYATOY ) ) STOPITSA=( S_OCHKOM WITH_SOROCHYA_NOZHKA ) STRELA(
    DVOECHELNOKRYZHEVAYA KLYUCHENEPOSTOYANNAYA KLYUCHEPOVODNAYA KRYZHEVAYA MRACHNOTIKHAYA
    NEPOSTOYANNAYA POLUPOVODNAYA POVODNAYA PROSTAYA TIKHAYA_PUTNAYA TRYASOGLASNAYA TRYASOPOVODNAYA
    TRYASOSTRELNAYA DVOECHELNAYA/DVOECHELNOPOVODNAYA=( KLYUCHEVAYA ) GROMNAYA=(
    WITH_SINGLE_ZAPYATAYA ) GROMOKRYZHEVAYA=( POVODNAYA ) GROMOPOVODNAYA=( WITH( DOUBLE/SINGLE(
    ZAPYATAYA ) ) ) KRYUKOVAYA=( POVODNAYA TRYASKA GROMNAYA=( WITH_SINGLE_ZAPYATAYA )
    GROMOKRYZHEVAYA=( POVODNAYA ) GROMOPOVODNAYA=( WITH( DOUBLE/SINGLE( ZAPYATAYA ) ) ) ) )
    VRAKHIYA( MRACHNAYA PROSTAYA SVETLAYA TRESVETLAYA KLYUCHEVAYA( MRACHNAYA PROSTAYA SVETLAYA
    TRESVETLAYA ) ) ) PRIZNAK_MODIFIER( DIRECTION_FLIP KRYZH LEVEL-2 LEVEL-3 ROG ) ) Z_NOTATION(
    BAG_MEMBERSHIP RELATIONAL_COMPOSITION SPOT TYPE_COLON DOMAIN/RANGE( ANTIRESTRICTION )
    LEFT/RIGHT( BINDING/IMAGE( BRACKET ) ) SCHEMA( COMPOSITION PIPING PROJECTION ) )")]

end EventFilter.Text
