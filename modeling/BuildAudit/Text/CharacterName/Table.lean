/-!
# Character names

The names of the characters of Unicode 14 and their aliases, in alphabetical order, without the
names of unified ideographs and of Hangul syllables. A line begins with a name. After it stand small
letters, each with the end of another name: the letter tells how many characters the name before
loses at its end, from none for `a` to twenty-five for `z`, and what follows the letter takes their
place.
-/

namespace BuildAudit.Text

/-- The lines of the list of names. -/
def characterNameLines : List String := [
  "ABACUSfC CURRENTiCORDIONfUNT OFiKaNOWLEDGEjTIVATE ARABIC FORM SHAPINGtSYMMETRIC SWAPPING",
  "ACUTE ACCENTfNGLEkDDRESSED TO THE SUBJECTwHESIVE BANDAGEoI SHAKTIiLAM ALIF LENGTHENER",
  "ADLAM CAPITAL LETTER ALIFeBAbHEdCHIdDAALIeHAdEbFAcGAbBEdHAcIbJIIMeKAFcHAcPOdLAAMeMIIMeNHAcUN",
  "ADLAM CAPITAL LETTER NYAdObPEcQAAFeRAcSHAcINNYIIYHEkTUcUbVAcWAWdYAbHEdZALrONSONANT MODIFIER",
  "ADLAM DIGIT EIGHTfFIVEdOUReNINEeONEdSEVENeIXdTHREEeWOdZEROkGEMINATE CONSONANT MODIFIER",
  "ADLAM GEMINATION MARKpHAMZAfINITIAL EXCLAMATION MARKqQUESTION MARKvNASALIZATION MARKqUKTA",
  "ADLAM SMALL LETTER ALIFeBAbHEdCHIdDAALIeHAdEbFAcGAbBEdHAcIbJIIMeKAFcHAcPOdLAAMeMIIMeNHAcUNcYA",
  "ADLAM SMALL LETTER ObPEcQAAFeRAcSHAcINNYIIYHEkTUcUbVAcWAWdYAbHEdZALqVOWEL LENGTHENERuMETOS",
  "ADMISSION TICKETSpULTeEGEAN CHECK MARKkDRY MEASURE FIRST SUBUNITzLIQUID MEASURE FIRST SUBUNIT",
  "AEGEAN MEASURE SECOND SUBUNIToTHIRD SUBUNITvNUMBER EIGHTa HUNDREDhTHOUSANDjYa THOUSANDpFIFTY",
  "AEGEAN NUMBER FIFTY THOUSANDmVEa HUNDREDhTHOUSANDmORTYa THOUSANDmURa HUNDREDhTHOUSANDnNINE",
  "AEGEAN NUMBER NINE HUNDREDhTHOUSANDjTYa THOUSANDpONEa HUNDREDhTHOUSANDmSEVENa HUNDREDhTHOUSAND",
  "AEGEAN NUMBER SEVENTYa THOUSANDpIXa HUNDREDhTHOUSANDjTYa THOUSANDoTENa THOUSANDlHIRTY",
  "AEGEAN NUMBER THIRTY THOUSANDnREEa HUNDREDhTHOUSANDnWENTYa THOUSANDnOa HUNDREDhTHOUSAND",
  "AEGEAN WEIGHT BASE UNITjFIRST SUBUNITmOURTH SUBUNIToSECOND SUBUNIToTHIRD SUBUNIT",
  "AEGEAN WORD SEPARATOR DOTdLINEyRIAL TRAMWAYnFGHANI SIGNlHOM CONSONANT SIGN MEDIAL LA",
  "AHOM CONSONANT SIGN MEDIAL LIGATING RAlRAyDIGIT EIGHTfFIVEdOUReNINEeONEdSEVENeIXdTHREEeWOdZERO",
  "AHOM LETTER AaLTERNATE BAcGAcTAmBAbHAdCAbHAdDAbDAbHAdHAdGAbHAdHAcJAbHAdKAbHAdLAbLAdMAcNAbGAcNA",
  "AHOM LETTER NYAdPAbHAdRAcSAcTAbHAcTAbHAlNUMBER TENcWENTYnSIGN KILLERgRULAIfSECTION",
  "AHOM SIGN SMALL SECTIONrYMBOL VIjVOWEL SIGN AaAbIbMbWcEbIaIcObUaUrIRPLANEa ARRIVINGiDEPARTURE",
  "AKTIESELSKABlLARM CLOCKjCHEMICAL SYMBOL FOR AIRcLEMBICfKALIa-2gUMdMALGAMgNTIMONY ORElQUA REGIA",
  "ALCHEMICAL SYMBOL FOR AQUA REGIA-2hVITAEa-2iFORTISjRSENICgSHESeURIPIGMENTlBATH OF MARYeVAPOURS",
  "ALCHEMICAL SYMBOL FOR BISMUTH OREkLACK SULFURlORAXa-2b3gRICKfCADUCEUSgLXcPUT MORTUUMmINNABAR",
  "ALCHEMICAL SYMBOL FOR COPPER ANTIMONIATElOREjROCUS OF COPPERa-2iIRONmUCIBLEa-2b3b4b5kDAY-NIGHT",
  "ALCHEMICAL SYMBOL FOR DISSOLVEa-2hTILLhEARTHfFIREeGOLDdUMdHALF DRAMeOUNCEjORSE DUNGiUR",
  "ALCHEMICAL SYMBOL FOR IRON OREa-2g-COPPER OREpLEAD OREhODESTONEjMARCASITEiERCURY SUBLIMATEa-2",
  "ALCHEMICAL SYMBOL FOR MERCURY SUBLIMATE-3sONTHfNIGHTdTREfOILdPHILOSOPHERS SULFURsOT ASHEShWDER",
  "ALCHEMICAL SYMBOL FOR POWDERED BRICKnRECIPITATEkURIFYeTREFACTIONmQUICK LIMEhNTESSENCEmREALGAR",
  "ALCHEMICAL SYMBOL FOR REALGAR-2hGULUSa OF ANTIMONYa-2kIRONi-2b3b4hTORTfOCK SALTa-2",
  "ALCHEMICAL SYMBOL FOR SAL-AMMONIACjTa OF ANTIMONYiCOPPER ANTIMONIATEzCEPTER OF JOVEoILVERfOAP",
  "ALCHEMICAL SYMBOL FOR SPIRITfTARRED TRIDENTnRATUM SUPER STRATUMa-2wUBLIMATE OF ANTIMONYiCOPPER",
  "ALCHEMICAL SYMBOL FOR SUBLIMATE OF SALT OF ANTIMONYiCOPPERtIONjLFURgTARTARa-2hIN OREeCTURE",
  "ALCHEMICAL SYMBOL FOR TRIDENTgUTTYfURINEfVERDIGRISiINEGARa OF ANTIMONYm-2b3hTRIOLa-2jWATERdX",
  "ALEF SYMBOLiMBICeRTdIEN MONSTERlL AROUND-PROFILEoEQUAL TOkMaOST EQUAL OR EQUAL TOlTO",
  "ALMOST EQUAL TO WITH CIRCUMFLEX ACCENT",
  "ALTERNATE ONE-WAY LEFT WAY TRAFFIC",
  "ALTERNATIVE KEY SYMBOLvMALGAMATION OR COPRODUCTxBULANCEhERICAN FOOTBALLpPERSANDgHORA",
  "ANATOLIAN HIEROGLYPH A001b2b3b4b5b6b7b8b9c10aAc1b2b3b4b5b6b7b8b9c20b1b2b3b4b5b6aAc7b8b9c30b1b2",
  "ANATOLIAN HIEROGLYPH A033b4b5b6b7b8b9aAd40b1aAc2b3b4b5aAc6aAbBc7b8b9c50b1b2b3b4b5b6b7b8b9c60b1",
  "ANATOLIAN HIEROGLYPH A062b3b4b5b6aAbBbCc7b8b9c70b1b2b3b4b5b6b7b8b9c80b1b2b3b4b5b6b7b8b9c90b1b2",
  "ANATOLIAN HIEROGLYPH A093b4b5b6b7aAc8aAc9d100aAc1aAc2aAc3b4aAbBbCc5aAbBc6b7aAbBbCc8b9c10aAbBc1",
  "ANATOLIAN HIEROGLYPH A112b3b4b5aAc6b7b8b9c20b1b2b3b4b5aAc6b7b8b9c30b1b2b3b4b5aAc6b7b8b9c40b1b2",
  "ANATOLIAN HIEROGLYPH A143b4b5b6b7b8b9c50b1b2b3b4b5b6b7b8b9c60b1b2b3b4b5b6b7b8b9c70b1b2b3b4b5b6",
  "ANATOLIAN HIEROGLYPH A177b8b9c80b1b2b3b4b5b6b7b8b9c90b1b2b3b4b5b6b7b8b9d200b1b2aAbBc3b4b5b6b7",
  "ANATOLIAN HIEROGLYPH A207Ac8b9aAd10b1b2b3b4b5aAc6aAc7b8b9c20b1b2b3b4b5b6b7aAc8b9c30b1b2b3b4b5",
  "ANATOLIAN HIEROGLYPH A236b7b8b9c40b1b2b3b4b5b6b7b8b9c50b1b2b3b4b5b6b7b8b9c60b1b2b3b4b5b6b7aAc8",
  "ANATOLIAN HIEROGLYPH A269c70b1b2b3b4b5b6b7b8b9c80b1b2b3b4b5b6b7b8b9aAd90b1b2b3b4aAc5b6b7b8b9aA",
  "ANATOLIAN HIEROGLYPH A300b1b2b3b4b5b6b7b8b9aAd10b1b2b3b4b5b6b7b8b9c20b1b2b3b4b5b6b7b8b9aAd30b1",
  "ANATOLIAN HIEROGLYPH A332AbBbCc3b4b5b6aAbBbCc7b8b9c40b1b2b3b4b5b6b7b8b9c50b1b2b3b4b5b6b7b8b9aA",
  "ANATOLIAN HIEROGLYPH A360b1b2b3b4aAc5b6b7b8aAc9c70b1aAc2b3b4b5b6b7b8b9c80b1aAc2b3 RA OR RIjAc4",
  "ANATOLIAN HIEROGLYPH A385b6aAc7b8b9c90b1b2b3 EIGHTh4b5b6b7b8b9d400b1b2b3b4b5b6b7b8b9",
  "ANATOLIAN HIEROGLYPH A410 BEGIN LOGOGRAM MARKuA END LOGOGRAM MARKu1b2b3b4b5b6b7b8b9c20b1b2b3b4",
  "ANATOLIAN HIEROGLYPH A425b6b7b8b9c30b1b2b3b4b5b6b7b8b9c40b1b2b3b4b5b6b7b8b9c50aAc1b2b3b4b5b6b7",
  "ANATOLIAN HIEROGLYPH A457Ac8b9c60b1b2b3b4b5b6b7b8b9c70b1b2b3b4b5b6b7b8b9c80b1b2b3b4b5b6b7b8b9",
  "ANATOLIAN HIEROGLYPH A490b1b2b3b4b5b6b7d501b2b3b4b5b6b7b8b9c10b1b2b3b4b5b6b7b8b9c20b1b2b3b4b5",
  "ANATOLIAN HIEROGLYPH A526b7b8b9c30uMICAL HEARToCHOReD WITH DOTkGER SYMBOLjLEa WITH S INSIDE",
  "ANGLE WITH UNDERBARqRY FACEhSTROM SIGNkUISHED FACEmKHcTaENNA WITH BARS",
  "ANTICLOCKWISE CLOSED CIRCLE ARROWsONTOUR INTEGRALqDOWNWARDS AND UPWARDS OPEN CIRCLE ARROWS",
  "ANTICLOCKWISE GAPPED CIRCLE ARROWtINTEGRATIONlOPEN CIRCLE ARROWrTOP SEMICIRCLE ARROW",
  "ANTICLOCKWISE TRIANGLE-HEADED BOTTOM U-SHAPED ARROWvLEFT U-SHAPED ARROWtOPEN CIRCLE ARROW",
  "ANTICLOCKWISE TRIANGLE-HEADED RIGHT U-SHAPED ARROWuTOP U-SHAPED ARROW",
  "APCbL FUNCTIONAL SYMBOL ALPHAa UNDERBARoBACKSLASH BARnCIRCLE BACKSLASHjDIAERESISjJOTdSTARcILE",
  "APL FUNCTIONAL SYMBOL CIRCLE UNDERBARoOMMA BARjDEL DIAERESISjSTILEfTILDEgTA STILEfUNDERBAR",
  "APL FUNCTIONAL SYMBOL DIAMOND UNDERBARpOWN CARET TILDElSHOE STILEkTACK JOTdUNDERBARoWARDS VANE",
  "APL FUNCTIONAL SYMBOL EPSILON UNDERBARqGREATER-THAN DIAERESISwI-BEAMfOTAa UNDERBAR",
  "APL FUNCTIONAL SYMBOL JOT DIAERESISjUNDERBARmLEFT SHOE STILElWARDS VANEoOMEGAa UNDERBARoQUAD",
  "APL FUNCTIONAL SYMBOL QUAD BACKSLASHjCIRCLEfOLONfDELaTAeIAMONDfVIDEfOWN CARETgWARDS ARROW",
  "APL FUNCTIONAL SYMBOL QUAD EQUALfGREATER-THANmJOTdLEFTWARDS ARROWnSS-THANjNOT EQUALjQUESTION",
  "APL FUNCTIONAL SYMBOL QUAD RIGHTWARDS ARROWqSLASHfUP CARETgWARDS ARROWqOTE QUADeUNDERBARoRHO",
  "APL FUNCTIONAL SYMBOL RIGHTWARDS VANEpSEMICOLON UNDERBARrLASH BARiQUISH QUADkTAR DIAERESIS",
  "APL FUNCTIONAL SYMBOL STILE TILDElTILDE DIAERESISpUP CARET TILDElSHOE JOTiTACK DIAERESISjJOT",
  "APL FUNCTIONAL SYMBOL UP TACK OVERBARnWARDS VANEmZILDEzOLLONeSTROPHEiPLICATION PROGRAM COMMAND",
  "APPROACHES THE LIMITpXIMATELY BUT NOT ACTUALLY EQUAL TOzEQUAL OR EQUAL TOlTOa OR THE IMAGE OF",
  "AQUARIUShRABIC BASELINE ROUND DOTsCOMMAeURLY DAMMAaTANiFATHAaTANiKASRAaTANoDAMMA",
  "ARABIC DAMMA ISOLATED FORMnMEDIAL FORMlWITH DOTjTANa ISOLATED FORMuTE SEPARATOR",
  "ARABIC DECIMAL SEPARATORqISPUTED END OF AYAHtOUBLE RIGHT ARROWHEAD ABOVEa WITH DOT",
  "ARABIC DOUBLED MADDAnEMPTY CENTRE HIGH STOPjLOW STOPuND OF AYAHeTEXT MARKqFATHAa ISOLATED FORM",
  "ARABIC FATHA MEDIAL FORMlWITH DOT ABOVEjRINGeTWO DOTSoTANa ISOLATED FORMvIVE POINTED STAR",
  "ARABIC FOOTNOTE MARKERoULL STOPjHALF MADDA OVER MADDAtMZA ABOVEfBELOWlINVERTED DAMMAoKASRA",
  "ARABIC KASRA ISOLATED FORMnMEDIAL FORMlWITH DOT BELOWpTANa ISOLATED FORMwLARGE CIRCLE BELOW",
  "ARABIC LARGE ROUND DOT ABOVEfBELOWfINSIDE CIRCLE BELOW",
  "ARABIC LEFT ARROWHEAD ABOVEfBELOWsTTER AEbFRICAN FEHdNOONeQAFa WITH THREE DOTS ABOVE",
  "ARABIC LETTER AINa FINAL FORMkINITIAL FORMlSOLATED FORMnMEDIAL FORMlWITH THREE DOTS ABOVE",
  "ARABIC LETTER AIN WITH THREE DOTS BELOWfPOINTING DOWNWARDS ABOVE",
  "ARABIC LETTER AIN WITH TWO DOTS ABOVEfVERTICALLY ABOVE",
  "ARABIC LETTER ALEFa FINAL FORMkISOLATED FORMnMAKSURAa FINAL FORMkISOLATED FORMvWASLA",
  "ARABIC LETTER ALEF WASLA FINAL FORMkISOLATED FORMsITH ATTACHED BOTTOM RIGHT KASRA",
  "ARABIC LETTER ALEF WITH ATTACHED BOTTOM RIGHT KASRA AND DOT ABOVEjLEFT RING",
  "ARABIC LETTER ALEF WITH ATTACHED FATHAfKASRAfLEFT HAMZAfROUND DOToRIGHT HAMZAfROUND DOT",
  "ARABIC LETTER ALEF WITH ATTACHED ROUND DOT ABOVEfBELOWpTOP RIGHT FATHAa AND DOT ABOVE",
  "ARABIC LETTER ALEF WITH ATTACHED TOP RIGHT FATHA AND LEFT RING",
  "ARABIC LETTER ALEF WITH DOT ABOVEjEXTENDED ARABIC-INDIC DIGIT THREE ABOVEkWO ABOVE",
  "ARABIC LETTER ALEF WITH HAMZA ABOVEa FINAL FORMkISOLATED FORMtBELOWa FINAL FORMkISOLATED FORM",
  "ARABIC LETTER ALEF WITH LEFT MIDDLE STROKEsMADDA ABOVEa FINAL FORMkISOLATED FORM",
  "ARABIC LETTER ALEF WITH RIGHT MIDDLE STROKEa AND DOT ABOVEjLEFT RING",
  "ARABIC LETTER ALEF WITH WAVY HAMZA ABOVEfBELOW",
  "ARABIC LETTER BEEHa FINAL FORMkINITIAL FORMlSOLATED FORMnMEDIAL FORMoHa FINAL FORM",
  "ARABIC LETTER BEH INITIAL FORMlSOLATED FORMnMEDIAL FORMlWITH DOT BELOW AND THREE DOTS ABOVE",
  "ARABIC LETTER BEH WITH HAMZA ABOVElINVERTED SMALL V BELOWwSMALL MEEM ABOVEkVa BELOW",
  "ARABIC LETTER BEH WITH THREE DOTS HORIZONTALLY BELOWsPOINTING UPWARDS BELOW",
  "ARABIC LETTER BEH WITH THREE DOTS POINTING UPWARDS BELOW AND TWO DOTS ABOVE",
  "ARABIC LETTER BEH WITH TWO DOTS BELOW AND DOT ABOVE",
  "ARABIC LETTER BEHEHa FINAL FORMkINITIAL FORMlSOLATED FORMnMEDIAL FORMrDADa FINAL FORM",
  "ARABIC LETTER DAD INITIAL FORMlSOLATED FORMnMEDIAL FORMlWITH DOT BELOWqHALa FINAL FORM",
  "ARABIC LETTER DAHAL ISOLATED FORMrLa FINAL FORMkISOLATED FORMnWITH DOT BELOWa AND SMALL TAH",
  "ARABIC LETTER DAL WITH FOUR DOTS ABOVEpINVERTED SMALL V BELOWnVkRING",
  "ARABIC LETTER DAL WITH THREE DOTS ABOVE DOWNWARDSpBELOWpWO DOTS VERTICALLY BELOW AND SMALL TAH",
  "ARABIC LETTER DDAHALa FINAL FORMkISOLATED FORMrLa FINAL FORMkISOLATED FORMrOTLESS BEHdFEHdQAF",
  "ARABIC LETTER DULa FINAL FORMkISOLATED FORMqYEHa FINAL FORMkINITIAL FORMlSOLATED FORM",
  "ARABIC LETTER DYEH MEDIAL FORMqEa FINAL FORMkINITIAL FORMlSOLATED FORMnMEDIAL FORMnFARSI YEH",
  "ARABIC LETTER FARSI YEH FINAL FORMkINITIAL FORMlSOLATED FORMnMEDIAL FORM",
  "ARABIC LETTER FARSI YEH WITH EXTENDED ARABIC-INDIC DIGIT FOUR BELOWkTHREE ABOVEkWO ABOVE",
  "ARABIC LETTER FARSI YEH WITH INVERTED VkTHREE DOTS ABOVEpWO DOTS ABOVE",
  "ARABIC LETTER FEHa FINAL FORMkINITIAL FORMlSOLATED FORMnMEDIAL FORMlWITH DOT BELOW",
  "ARABIC LETTER FEH WITH DOT BELOW AND THREE DOTS ABOVE",
  "ARABIC LETTER FEH WITH DOT MOVED BELOWpTHREE DOTS BELOWfPOINTING UPWARDS BELOW",
  "ARABIC LETTER FEH WITH TWO DOTS BELOWxGAFa FINAL FORMkINITIAL FORMlSOLATED FORMnMEDIAL FORM",
  "ARABIC LETTER GAF WITH INVERTED STROKEpRINGeTHREE DOTS ABOVEpWO DOTS BELOWwHAINa FINAL FORM",
  "ARABIC LETTER GHAIN INITIAL FORMlSOLATED FORMnMEDIAL FORMlWITH DOT BELOWjTHREE DOTS ABOVE",
  "ARABIC LETTER GRAFdUEHa FINAL FORMkINITIAL FORMlSOLATED FORMnMEDIAL FORMqHAHa FINAL FORM",
  "ARABIC LETTER HAH INITIAL FORMlSOLATED FORMnMEDIAL FORM",
  "ARABIC LETTER HAH WITH EXTENDED ARABIC-INDIC DIGIT FOUR BELOW",
  "ARABIC LETTER HAH WITH HAMZA ABOVElINVERTED SMALL V BELOWwSMALL ARABIC LETTER TAH ABOVE",
  "ARABIC LETTER HAH WITH SMALL ARABIC LETTER TAH AND TWO DOTSmBELOW",
  "ARABIC LETTER HAH WITH THREE DOTS ABOVEfPOINTING UPWARDS BELOW",
  "ARABIC LETTER HAH WITH TWO DOTS ABOVEfVERTICAL ABOVE",
  "ARABIC LETTER HAMZAa ISOLATED FORMsEHa DOACHASHMEEa FINAL FORMkINITIAL FORMlSOLATED FORM",
  "ARABIC LETTER HEH DOACHASHMEE MEDIAL FORMxFINAL FORMkGOALa FINAL FORMkINITIAL FORM",
  "ARABIC LETTER HEH GOAL ISOLATED FORMnMEDIAL FORMlWITH HAMZA ABOVEvINITIAL FORMlSOLATED FORM",
  "ARABIC LETTER HEH MEDIAL FORMlWITH INVERTED VkYEH ABOVEa FINAL FORMkISOLATED FORM",
  "ARABIC LETTER HIGH HAMZAa ALEFeWAWdYEHoJEEMa FINAL FORMkINITIAL FORMlSOLATED FORMnMEDIAL FORM",
  "ARABIC LETTER JEEM WITH THREE DOTS ABOVEfBELOWpWO DOTS ABOVEwHa FINAL FORMkISOLATED FORMrKAF",
  "ARABIC LETTER KAF FINAL FORMkINITIAL FORMlSOLATED FORMnMEDIAL FORMlWITH DOT ABOVEfBELOWjRING",
  "ARABIC LETTER KAF WITH THREE DOTS BELOWpWO DOTS ABOVEvSHMIRI YEHlEHEHa FINAL FORMkINITIAL FORM",
  "ARABIC LETTER KEHEH ISOLATED FORMnMEDIAL FORMlWITH DOT ABOVEjSMALL VhTHREE DOTS ABOVEfBELOW",
  "ARABIC LETTER KEHEH WITH THREE DOTS POINTING UPWARDS BELOW",
  "ARABIC LETTER KEHEH WITH TWO DOTS ABOVEfVERTICALLY BELOW",
  "ARABIC LETTER KHAHa FINAL FORMkINITIAL FORMlSOLATED FORMnMEDIAL FORMpIRGHIZ OEa FINAL FORM",
  "ARABIC LETTER KIRGHIZ OE ISOLATED FORMqYUa FINAL FORMkISOLATED FORMyLAMa FINAL FORM",
  "ARABIC LETTER LAM INITIAL FORMlSOLATED FORMnMEDIAL FORMlWITH BARdDOT ABOVEhUBLE BAR",
  "ARABIC LETTER LAM WITH SMALL ARABIC LETTER TAH ABOVExVhTHREE DOTS ABOVEfBELOWyOW ALEFiMARKdEEM",
  "ARABIC LETTER MEEM FINAL FORMkINITIAL FORMlSOLATED FORMnMEDIAL FORMlWITH DOT ABOVEfBELOW",
  "ARABIC LETTER MEEM WITH THREE DOTS ABOVE",
  "ARABIC LETTER NGa FINAL FORMkINITIAL FORMlSOLATED FORMnMEDIAL FORMmOEHa FINAL FORM",
  "ARABIC LETTER NGOEH INITIAL FORMlSOLATED FORMnMEDIAL FORMqOONa FINAL FORMkGHUNNAa FINAL FORM",
  "ARABIC LETTER NOON GHUNNA ISOLATED FORMuINITIAL FORMlSOLATED FORMnMEDIAL FORMlWITH DOT BELOW",
  "ARABIC LETTER NOON WITH INVERTED SMALL VqRINGeSMALL TAHdVhTHREE DOTS ABOVEpWO DOTS BELOWxYEH",
  "ARABIC LETTER NYEH FINAL FORMkINITIAL FORMlSOLATED FORMnMEDIAL FORMqOEa FINAL FORM",
  "ARABIC LETTER OE ISOLATED FORMqPEHa FINAL FORMkINITIAL FORMlSOLATED FORMnMEDIAL FORM",
  "ARABIC LETTER PEH WITH SMALL MEEM ABOVEkVnEHa FINAL FORMkINITIAL FORMlSOLATED FORMnMEDIAL FORM",
  "ARABIC LETTER QAFa FINAL FORMkINITIAL FORMlSOLATED FORMnMEDIAL FORMlWITH DOT ABOVEfBELOW",
  "ARABIC LETTER QAF WITH DOT BELOW AND NO DOTS ABOVE",
  "ARABIC LETTER QAF WITH THREE DOTS ABOVEzREHa FINAL FORMkISOLATED FORMnWITH DOT BELOW",
  "ARABIC LETTER REH WITH DOT BELOW AND DOT ABOVExFOUR DOTS ABOVEpHAMZA ABOVElINVERTED VkLOOP",
  "ARABIC LETTER REH WITH RINGeSMALL ARABIC LETTER TAH AND TWO DOTS",
  "ARABIC LETTER REH WITH SMALL NOON ABOVEkVa BELOWmTROKEgTWO DOTS ABOVEfVERTICALLY ABOVE",
  "ARABIC LETTER RNOONa FINAL FORMkINITIAL FORMlSOLATED FORMnMEDIAL FORMqOHINGYA YEHlREH",
  "ARABIC LETTER RREH FINAL FORMkISOLATED FORMsSADa FINAL FORMkINITIAL FORMlSOLATED FORM",
  "ARABIC LETTER SAD MEDIAL FORMlWITH THREE DOTS ABOVEfBELOWpWO DOTS BELOWwEENa FINAL FORM",
  "ARABIC LETTER SEEN INITIAL FORMlSOLATED FORMnMEDIAL FORMlWITH DOT BELOW AND DOT ABOVE",
  "ARABIC LETTER SEEN WITH EXTENDED ARABIC-INDIC DIGIT FOUR ABOVE",
  "ARABIC LETTER SEEN WITH FOUR DOTS ABOVEpINVERTED VkSMALL ARABIC LETTER TAH AND TWO DOTS",
  "ARABIC LETTER SEEN WITH THREE DOTS BELOWa AND THREE DOTS ABOVE",
  "ARABIC LETTER SEEN WITH TWO DOTS VERTICALLY ABOVE",
  "ARABIC LETTER SHEENa FINAL FORMkINITIAL FORMlSOLATED FORMnMEDIAL FORMlWITH DOT BELOW",
  "ARABIC LETTER STRAIGHT WAWlUPERSCRIPT ALEFpWASH KAFjTAHa FINAL FORMkINITIAL FORMlSOLATED FORM",
  "ARABIC LETTER TAH MEDIAL FORMlWITH DOT BELOWjTHREE DOTS ABOVEfBELOWpWO DOTS ABOVEwCHEH",
  "ARABIC LETTER TCHEH FINAL FORMkINITIAL FORMlSOLATED FORMnMEDIAL FORMlWITH DOT ABOVEjSMALL VnEH",
  "ARABIC LETTER TCHEHEH FINAL FORMkINITIAL FORMlSOLATED FORMnMEDIAL FORMsEHa FINAL FORM",
  "ARABIC LETTER TEH INITIAL FORMlSOLATED FORMnMARBUTAa FINAL FORMkGOALeISOLATED FORMuEDIAL FORM",
  "ARABIC LETTER TEH WITH RINGeSMALL TEH ABOVEjVhTHREE DOTS ABOVE DOWNWARDS",
  "ARABIC LETTER TEHEHa FINAL FORMkINITIAL FORMlSOLATED FORMnMEDIAL FORMqHALa FINAL FORM",
  "ARABIC LETTER THAL ISOLATED FORMqEHa FINAL FORMkINITIAL FORMlSOLATED FORMnMEDIAL FORMoIN YEH",
  "ARABIC LETTER TTEHa FINAL FORMkINITIAL FORMlSOLATED FORMnMEDIAL FORMlWITH SMALL VnEH",
  "ARABIC LETTER TTEHEH FINAL FORMkINITIAL FORMlSOLATED FORMnMEDIAL FORMsUa FINAL FORM",
  "ARABIC LETTER U ISOLATED FORMnWITH HAMZA ABOVEa ISOLATED FORM",
  "ARABIC LETTER UIGHUR KAZAKH KIRGHIZ ALEF MAKSURA INITIAL FORMmMEDIAL FORM",
  "ARABIC LETTER VEa FINAL FORMkISOLATED FORMoHa FINAL FORMkINITIAL FORMlSOLATED FORMnMEDIAL FORM",
  "ARABIC LETTER WAWa FINAL FORMkISOLATED FORMnWITH DOT ABOVEfWITHIN",
  "ARABIC LETTER WAW WITH EXTENDED ARABIC-INDIC DIGIT THREE ABOVEkWO ABOVE",
  "ARABIC LETTER WAW WITH HAMZA ABOVEa FINAL FORMkISOLATED FORMzRINGeTWO DOTS ABOVExYEHa BARREE",
  "ARABIC LETTER YEH BARREE FINAL FORMkISOLATED FORMnWITH EXTENDED ARABIC-INDIC DIGIT THREE ABOVE",
  "ARABIC LETTER YEH BARREE WITH EXTENDED ARABIC-INDIC DIGIT TWO ABOVE",
  "ARABIC LETTER YEH BARREE WITH HAMZA ABOVEa FINAL FORMkISOLATED FORM",
  "ARABIC LETTER YEH FINAL FORMkINITIAL FORMlSOLATED FORMnMEDIAL FORMlWITH HAMZA ABOVE",
  "ARABIC LETTER YEH WITH HAMZA ABOVE FINAL FORMkINITIAL FORMlSOLATED FORMnMEDIAL FORMxSMALL V",
  "ARABIC LETTER YEH WITH TAILdHREE DOTS BELOWpWO DOTS BELOW AND DOT ABOVEjHAMZA ABOVE",
  "ARABIC LETTER YEH WITH TWO DOTS BELOW AND SMALL NOON ABOVE",
  "ARABIC LETTER YUa FINAL FORMkISOLATED FORMqZAHa FINAL FORMkINITIAL FORMlSOLATED FORM",
  "ARABIC LETTER ZAH MEDIAL FORMnINa FINAL FORMkISOLATED FORMnWITH INVERTED V ABOVE",
  "ARABIC LIGATURE AIN WITH ALEF MAKSURA FINAL FORMkISOLATED FORM",
  "ARABIC LIGATURE AIN WITH JEEM INITIAL FORMlSOLATED FORMnWITH MEEM FINAL FORMkINITIAL FORM",
  "ARABIC LIGATURE AIN WITH MEEM INITIAL FORMlSOLATED FORMnWITH ALEF MAKSURA FINAL FORM",
  "ARABIC LIGATURE AIN WITH MEEM WITH MEEM FINAL FORMkINITIAL FORMrYEH FINAL FORMyYEH FINAL FORM",
  "ARABIC LIGATURE AIN WITH YEH ISOLATED FORMzKBAR ISOLATED FORMsLAYHAA AS-SALAAMmE ISOLATED FORM",
  "ARABIC LIGATURE ALAYHI AS-SALAAMbTU WAS-SALAAMwM AS-SALAAMkAA AS-SALAAM",
  "ARABIC LIGATURE ALEF MAKSURA WITH SUPERSCRIPT ALEF FINAL FORMkISOLATED FORM",
  "ARABIC LIGATURE ALEF WITH FATHATAN FINAL FORMkISOLATED FORM",
  "ARABIC LIGATURE ALLAH ISOLATED FORMsZZA WA JALLmBEH WITH ALEF MAKSURA FINAL FORMkISOLATED FORM",
  "ARABIC LIGATURE BEH WITH HAH INITIAL FORMlSOLATED FORMnWITH YEH FINAL FORMwEH INITIAL FORM",
  "ARABIC LIGATURE BEH WITH HEH MEDIAL FORMpJEEM INITIAL FORMlSOLATED FORMsKHAH INITIAL FORM",
  "ARABIC LIGATURE BEH WITH KHAH ISOLATED FORMnWITH YEH FINAL FORMyMEEM FINAL FORMkINITIAL FORM",
  "ARABIC LIGATURE BEH WITH MEEM ISOLATED FORMnMEDIAL FORMqNOON FINAL FORMpREH FINAL FORM",
  "ARABIC LIGATURE BEH WITH YEH FINAL FORMkISOLATED FORMrZAIN FINAL FORM",
  "ARABIC LIGATURE BISMILLAH AR-RAHMAN AR-RAHEEM",
  "ARABIC LIGATURE DAD WITH ALEF MAKSURA FINAL FORMkISOLATED FORM",
  "ARABIC LIGATURE DAD WITH HAH INITIAL FORMlSOLATED FORMnWITH ALEF MAKSURA FINAL FORM",
  "ARABIC LIGATURE DAD WITH HAH WITH YEH FINAL FORMxJEEM INITIAL FORMlSOLATED FORM",
  "ARABIC LIGATURE DAD WITH KHAH INITIAL FORMlSOLATED FORMnWITH MEEM FINAL FORMkINITIAL FORM",
  "ARABIC LIGATURE DAD WITH MEEM INITIAL FORMlSOLATED FORMsREH FINAL FORMkISOLATED FORM",
  "ARABIC LIGATURE DAD WITH YEH FINAL FORMkISOLATED FORM",
  "ARABIC LIGATURE FEH WITH ALEF MAKSURA FINAL FORMkISOLATED FORM",
  "ARABIC LIGATURE FEH WITH HAH INITIAL FORMlSOLATED FORMrJEEM INITIAL FORMlSOLATED FORM",
  "ARABIC LIGATURE FEH WITH KHAH INITIAL FORMlSOLATED FORMnWITH MEEM FINAL FORMkINITIAL FORM",
  "ARABIC LIGATURE FEH WITH MEEM INITIAL FORMlSOLATED FORMnWITH YEH FINAL FORMyYEH FINAL FORM",
  "ARABIC LIGATURE FEH WITH YEH ISOLATED FORM",
  "ARABIC LIGATURE GHAIN WITH ALEF MAKSURA FINAL FORMkISOLATED FORM",
  "ARABIC LIGATURE GHAIN WITH JEEM INITIAL FORMlSOLATED FORMsMEEM INITIAL FORMlSOLATED FORM",
  "ARABIC LIGATURE GHAIN WITH MEEM WITH ALEF MAKSURA FINAL FORMxMEEM FINAL FORMpYEH FINAL FORM",
  "ARABIC LIGATURE GHAIN WITH YEH FINAL FORMkISOLATED FORM",
  "ARABIC LIGATURE HAH WITH ALEF MAKSURA FINAL FORMkISOLATED FORM",
  "ARABIC LIGATURE HAH WITH JEEM INITIAL FORMlSOLATED FORMnWITH YEH FINAL FORMyMEEM INITIAL FORM",
  "ARABIC LIGATURE HAH WITH MEEM ISOLATED FORMnWITH ALEF MAKSURA FINAL FORMxYEH FINAL FORM",
  "ARABIC LIGATURE HAH WITH YEH FINAL FORMkISOLATED FORMzEH WITH ALEF MAKSURA ISOLATED FORM",
  "ARABIC LIGATURE HEH WITH JEEM INITIAL FORMlSOLATED FORMsMEEM INITIAL FORMlSOLATED FORM",
  "ARABIC LIGATURE HEH WITH MEEM WITH JEEM INITIAL FORMrMEEM INITIAL FORM",
  "ARABIC LIGATURE HEH WITH SUPERSCRIPT ALEF INITIAL FORM",
  "ARABIC LIGATURE HEH WITH YEH ISOLATED FORM",
  "ARABIC LIGATURE JALLAJALALOUHOUoEEM WITH ALEF MAKSURA FINAL FORMkISOLATED FORM",
  "ARABIC LIGATURE JEEM WITH HAH INITIAL FORMlSOLATED FORMnWITH ALEF MAKSURA FINAL FORM",
  "ARABIC LIGATURE JEEM WITH HAH WITH YEH FINAL FORMxMEEM INITIAL FORMlSOLATED FORM",
  "ARABIC LIGATURE JEEM WITH MEEM WITH ALEF MAKSURA FINAL FORMxHAH FINAL FORMkINITIAL FORM",
  "ARABIC LIGATURE JEEM WITH MEEM WITH YEH FINAL FORMyYEH FINAL FORMkISOLATED FORM",
  "ARABIC LIGATURE KAF WITH ALEF FINAL FORMkISOLATED FORMnMAKSURA FINAL FORMkISOLATED FORM",
  "ARABIC LIGATURE KAF WITH HAH INITIAL FORMlSOLATED FORMrJEEM INITIAL FORMlSOLATED FORM",
  "ARABIC LIGATURE KAF WITH KHAH INITIAL FORMlSOLATED FORMsLAM FINAL FORMkINITIAL FORM",
  "ARABIC LIGATURE KAF WITH LAM ISOLATED FORMnMEDIAL FORMpMEEM FINAL FORMkINITIAL FORM",
  "ARABIC LIGATURE KAF WITH MEEM ISOLATED FORMnMEDIAL FORMlWITH MEEM FINAL FORMkINITIAL FORM",
  "ARABIC LIGATURE KAF WITH MEEM WITH YEH FINAL FORMyYEH FINAL FORMkISOLATED FORM",
  "ARABIC LIGATURE KHAH WITH ALEF MAKSURA FINAL FORMkISOLATED FORM",
  "ARABIC LIGATURE KHAH WITH HAH ISOLATED FORMrJEEM INITIAL FORMlSOLATED FORMsMEEM INITIAL FORM",
  "ARABIC LIGATURE KHAH WITH MEEM ISOLATED FORMsYEH FINAL FORMkISOLATED FORM",
  "ARABIC LIGATURE LAM WITH ALEF FINAL FORMkISOLATED FORMnMAKSURA FINAL FORMkISOLATED FORM",
  "ARABIC LIGATURE LAM WITH ALEF WITH HAMZA ABOVE FINAL FORMkISOLATED FORMtBELOW FINAL FORM",
  "ARABIC LIGATURE LAM WITH ALEF WITH HAMZA BELOW ISOLATED FORMzMADDA ABOVE FINAL FORM",
  "ARABIC LIGATURE LAM WITH ALEF WITH MADDA ABOVE ISOLATED FORM",
  "ARABIC LIGATURE LAM WITH HAH INITIAL FORMlSOLATED FORMnWITH ALEF MAKSURA FINAL FORM",
  "ARABIC LIGATURE LAM WITH HAH WITH MEEM FINAL FORMkINITIAL FORMrYEH FINAL FORMwEH INITIAL FORM",
  "ARABIC LIGATURE LAM WITH JEEM INITIAL FORMlSOLATED FORMnWITH JEEM FINAL FORMkINITIAL FORM",
  "ARABIC LIGATURE LAM WITH JEEM WITH MEEM FINAL FORMkINITIAL FORMrYEH FINAL FORM",
  "ARABIC LIGATURE LAM WITH KHAH INITIAL FORMlSOLATED FORMnWITH MEEM FINAL FORMkINITIAL FORM",
  "ARABIC LIGATURE LAM WITH MEEM FINAL FORMkINITIAL FORMlSOLATED FORMnMEDIAL FORM",
  "ARABIC LIGATURE LAM WITH MEEM WITH HAH FINAL FORMkINITIAL FORMqYEH FINAL FORMyYEH FINAL FORM",
  "ARABIC LIGATURE LAM WITH YEH ISOLATED FORM",
  "ARABIC LIGATURE MEEM WITH ALEF FINAL FORMkMAKSURA ISOLATED FORM",
  "ARABIC LIGATURE MEEM WITH HAH INITIAL FORMlSOLATED FORMnWITH JEEM INITIAL FORM",
  "ARABIC LIGATURE MEEM WITH HAH WITH MEEM INITIAL FORMrYEH FINAL FORMxJEEM INITIAL FORM",
  "ARABIC LIGATURE MEEM WITH JEEM ISOLATED FORMnWITH HAH INITIAL FORMqKHAH INITIAL FORM",
  "ARABIC LIGATURE MEEM WITH JEEM WITH MEEM INITIAL FORMrYEH FINAL FORMyKHAH INITIAL FORM",
  "ARABIC LIGATURE MEEM WITH KHAH ISOLATED FORMnWITH JEEM INITIAL FORMrMEEM INITIAL FORM",
  "ARABIC LIGATURE MEEM WITH KHAH WITH YEH FINAL FORMyMEEM FINAL FORMkINITIAL FORMlSOLATED FORM",
  "ARABIC LIGATURE MEEM WITH MEEM WITH YEH FINAL FORMyYEH ISOLATED FORM",
  "ARABIC LIGATURE MOHAMMAD ISOLATED FORMwNOON WITH ALEF MAKSURA FINAL FORMkISOLATED FORM",
  "ARABIC LIGATURE NOON WITH HAH INITIAL FORMlSOLATED FORMnWITH ALEF MAKSURA FINAL FORM",
  "ARABIC LIGATURE NOON WITH HAH WITH MEEM INITIAL FORMrYEH FINAL FORMwEH INITIAL FORM",
  "ARABIC LIGATURE NOON WITH HEH MEDIAL FORMpJEEM INITIAL FORMlSOLATED FORM",
  "ARABIC LIGATURE NOON WITH JEEM WITH ALEF MAKSURA FINAL FORMxHAH FINAL FORMkINITIAL FORM",
  "ARABIC LIGATURE NOON WITH JEEM WITH MEEM FINAL FORMkINITIAL FORMrYEH FINAL FORM",
  "ARABIC LIGATURE NOON WITH KHAH INITIAL FORMlSOLATED FORMsMEEM FINAL FORMkINITIAL FORM",
  "ARABIC LIGATURE NOON WITH MEEM ISOLATED FORMnMEDIAL FORMlWITH ALEF MAKSURA FINAL FORM",
  "ARABIC LIGATURE NOON WITH MEEM WITH YEH FINAL FORMyNOON FINAL FORMpREH FINAL FORM",
  "ARABIC LIGATURE NOON WITH YEH FINAL FORMkISOLATED FORMrZAIN FINAL FORM",
  "ARABIC LIGATURE QAF WITH ALEF MAKSURA FINAL FORMkISOLATED FORM",
  "ARABIC LIGATURE QAF WITH HAH INITIAL FORMlSOLATED FORMrMEEM INITIAL FORMlSOLATED FORM",
  "ARABIC LIGATURE QAF WITH MEEM WITH HAH FINAL FORMkINITIAL FORMqMEEM FINAL FORMpYEH FINAL FORM",
  "ARABIC LIGATURE QAF WITH YEH FINAL FORMkISOLATED FORM",
  "ARABIC LIGATURE QALA USED AS KORANIC STOP SIGN ISOLATED FORM",
  "ARABIC LIGATURE QUDDISA SIRRAHoRADI ALLAAHU ANHaAAcUMaAAdNNAsHIMAHU ALLAAHhM ALLAAH",
  "ARABIC LIGATURE RASOUL ISOLATED FORMtEH WITH SUPERSCRIPT ALEF ISOLATED FORM",
  "ARABIC LIGATURE SAD WITH ALEF MAKSURA FINAL FORMkISOLATED FORM",
  "ARABIC LIGATURE SAD WITH HAH INITIAL FORMlSOLATED FORMnWITH HAH FINAL FORMkINITIAL FORM",
  "ARABIC LIGATURE SAD WITH HAH WITH YEH FINAL FORMxKHAH INITIAL FORMrMEEM INITIAL FORM",
  "ARABIC LIGATURE SAD WITH MEEM ISOLATED FORMnWITH MEEM FINAL FORMkINITIAL FORM",
  "ARABIC LIGATURE SAD WITH REH FINAL FORMkISOLATED FORMrYEH FINAL FORMkISOLATED FORM",
  "ARABIC LIGATURE SALAAMUHU ALAYNAAnM ISOLATED FORMqLA ISOLATED FORM",
  "ARABIC LIGATURE SALLA USED AS KORANIC STOP SIGN ISOLATED FORM",
  "ARABIC LIGATURE SALLALLAAHU ALAYHI WA-AALIHtHOU ALAYHE WASALLAMsU ALAYHI WAAALIHEE WA-SALLAM",
  "ARABIC LIGATURE SEEN WITH ALEF MAKSURA FINAL FORMkISOLATED FORM",
  "ARABIC LIGATURE SEEN WITH HAH INITIAL FORMlSOLATED FORMnMEDIAL FORMlWITH JEEM INITIAL FORM",
  "ARABIC LIGATURE SEEN WITH HEH INITIAL FORMmMEDIAL FORMpJEEM INITIAL FORMlSOLATED FORM",
  "ARABIC LIGATURE SEEN WITH JEEM MEDIAL FORMlWITH ALEF MAKSURA FINAL FORMxHAH INITIAL FORM",
  "ARABIC LIGATURE SEEN WITH KHAH INITIAL FORMlSOLATED FORMnMEDIAL FORM",
  "ARABIC LIGATURE SEEN WITH KHAH WITH ALEF MAKSURA FINAL FORMxYEH FINAL FORMyMEEM INITIAL FORM",
  "ARABIC LIGATURE SEEN WITH MEEM ISOLATED FORMnMEDIAL FORMlWITH HAH FINAL FORMkINITIAL FORM",
  "ARABIC LIGATURE SEEN WITH MEEM WITH JEEM INITIAL FORMrMEEM FINAL FORMkINITIAL FORM",
  "ARABIC LIGATURE SEEN WITH REH FINAL FORMkISOLATED FORMrYEH FINAL FORMkISOLATED FORM",
  "ARABIC LIGATURE SHADDA WITH DAMMA ISOLATED FORMnMEDIAL FORMmTAN ISOLATED FORM",
  "ARABIC LIGATURE SHADDA WITH FATHA ISOLATED FORMnMEDIAL FORMrKASRA ISOLATED FORMnMEDIAL FORM",
  "ARABIC LIGATURE SHADDA WITH KASRATAN ISOLATED FORMwSUPERSCRIPT ALEF ISOLATED FORM",
  "ARABIC LIGATURE SHEEN WITH ALEF MAKSURA FINAL FORMkISOLATED FORM",
  "ARABIC LIGATURE SHEEN WITH HAH FINAL FORMkINITIAL FORMlSOLATED FORMnMEDIAL FORM",
  "ARABIC LIGATURE SHEEN WITH HAH WITH MEEM FINAL FORMkINITIAL FORMrYEH FINAL FORM",
  "ARABIC LIGATURE SHEEN WITH HEH INITIAL FORMmMEDIAL FORMpJEEM FINAL FORMkINITIAL FORM",
  "ARABIC LIGATURE SHEEN WITH JEEM ISOLATED FORMnMEDIAL FORMlWITH YEH FINAL FORMyKHAH FINAL FORM",
  "ARABIC LIGATURE SHEEN WITH KHAH INITIAL FORMlSOLATED FORMnMEDIAL FORMqMEEM FINAL FORM",
  "ARABIC LIGATURE SHEEN WITH MEEM INITIAL FORMlSOLATED FORMnMEDIAL FORMlWITH KHAH FINAL FORM",
  "ARABIC LIGATURE SHEEN WITH MEEM WITH KHAH INITIAL FORMrMEEM FINAL FORMkINITIAL FORM",
  "ARABIC LIGATURE SHEEN WITH REH FINAL FORMkISOLATED FORMrYEH FINAL FORMkISOLATED FORM",
  "ARABIC LIGATURE SUBHAANAHU WA TAAALAAvTABAARAKA WA-TAAALAAsH WITH ALEF MAKSURA FINAL FORM",
  "ARABIC LIGATURE TAH WITH ALEF MAKSURA ISOLATED FORM",
  "ARABIC LIGATURE TAH WITH HAH INITIAL FORMlSOLATED FORMrMEEM INITIAL FORMlSOLATED FORM",
  "ARABIC LIGATURE TAH WITH MEEM MEDIAL FORMlWITH HAH FINAL FORMkINITIAL FORMqMEEM INITIAL FORM",
  "ARABIC LIGATURE TAH WITH MEEM WITH YEH FINAL FORMyYEH FINAL FORMkISOLATED FORM",
  "ARABIC LIGATURE TEH WITH ALEF MAKSURA FINAL FORMkISOLATED FORM",
  "ARABIC LIGATURE TEH WITH HAH INITIAL FORMlSOLATED FORMnWITH JEEM FINAL FORMkINITIAL FORM",
  "ARABIC LIGATURE TEH WITH HAH WITH MEEM INITIAL FORMzEH INITIAL FORMmMEDIAL FORM",
  "ARABIC LIGATURE TEH WITH JEEM INITIAL FORMlSOLATED FORMnWITH ALEF MAKSURA FINAL FORM",
  "ARABIC LIGATURE TEH WITH JEEM WITH MEEM INITIAL FORMrYEH FINAL FORMyKHAH INITIAL FORM",
  "ARABIC LIGATURE TEH WITH KHAH ISOLATED FORMnWITH ALEF MAKSURA FINAL FORMxMEEM INITIAL FORM",
  "ARABIC LIGATURE TEH WITH KHAH WITH YEH FINAL FORMyMEEM FINAL FORMkINITIAL FORMlSOLATED FORM",
  "ARABIC LIGATURE TEH WITH MEEM MEDIAL FORMlWITH ALEF MAKSURA FINAL FORMxHAH INITIAL FORM",
  "ARABIC LIGATURE TEH WITH MEEM WITH JEEM INITIAL FORMrKHAH INITIAL FORMrYEH FINAL FORM",
  "ARABIC LIGATURE TEH WITH NOON FINAL FORMpREH FINAL FORMoYEH FINAL FORMkISOLATED FORM",
  "ARABIC LIGATURE TEH WITH ZAIN FINAL FORMxHAL WITH SUPERSCRIPT ALEF ISOLATED FORM",
  "ARABIC LIGATURE THEH WITH ALEF MAKSURA FINAL FORMkISOLATED FORM",
  "ARABIC LIGATURE THEH WITH HEH MEDIAL FORMpJEEM ISOLATED FORMsMEEM FINAL FORMkINITIAL FORM",
  "ARABIC LIGATURE THEH WITH MEEM ISOLATED FORMnMEDIAL FORMqNOON FINAL FORMpREH FINAL FORM",
  "ARABIC LIGATURE THEH WITH YEH FINAL FORMkISOLATED FORMrZAIN FINAL FORM",
  "ARABIC LIGATURE UIGHUR KIRGHIZ YEH WITH HAMZA ABOVE WITH ALEF MAKSURA FINAL FORMkINITIAL FORM",
  "ARABIC LIGATURE UIGHUR KIRGHIZ YEH WITH HAMZA ABOVE WITH ALEF MAKSURA ISOLATED FORM",
  "ARABIC LIGATURE WASALLAM ISOLATED FORMwYEH WITH ALEF MAKSURA FINAL FORMkISOLATED FORM",
  "ARABIC LIGATURE YEH WITH HAH INITIAL FORMlSOLATED FORMnWITH YEH FINAL FORM",
  "ARABIC LIGATURE YEH WITH HAMZA ABOVE WITH AE FINAL FORMkISOLATED FORMpLEF FINAL FORM",
  "ARABIC LIGATURE YEH WITH HAMZA ABOVE WITH ALEF ISOLATED FORMnMAKSURA FINAL FORMkISOLATED FORM",
  "ARABIC LIGATURE YEH WITH HAMZA ABOVE WITH E FINAL FORMkINITIAL FORMlSOLATED FORM",
  "ARABIC LIGATURE YEH WITH HAMZA ABOVE WITH HAH INITIAL FORMlSOLATED FORMqEH INITIAL FORM",
  "ARABIC LIGATURE YEH WITH HAMZA ABOVE WITH HEH MEDIAL FORMpJEEM INITIAL FORMlSOLATED FORM",
  "ARABIC LIGATURE YEH WITH HAMZA ABOVE WITH KHAH INITIAL FORMrMEEM FINAL FORMkINITIAL FORM",
  "ARABIC LIGATURE YEH WITH HAMZA ABOVE WITH MEEM ISOLATED FORMnMEDIAL FORMqNOON FINAL FORM",
  "ARABIC LIGATURE YEH WITH HAMZA ABOVE WITH OE FINAL FORMkISOLATED FORMqREH FINAL FORM",
  "ARABIC LIGATURE YEH WITH HAMZA ABOVE WITH U FINAL FORMkISOLATED FORMpWAW FINAL FORM",
  "ARABIC LIGATURE YEH WITH HAMZA ABOVE WITH WAW ISOLATED FORMrYEH FINAL FORMkISOLATED FORM",
  "ARABIC LIGATURE YEH WITH HAMZA ABOVE WITH YU FINAL FORMkISOLATED FORMqZAIN FINAL FORM",
  "ARABIC LIGATURE YEH WITH HEH INITIAL FORMmMEDIAL FORMpJEEM INITIAL FORMlSOLATED FORM",
  "ARABIC LIGATURE YEH WITH JEEM WITH YEH FINAL FORMyKHAH INITIAL FORMlSOLATED FORM",
  "ARABIC LIGATURE YEH WITH MEEM FINAL FORMkINITIAL FORMlSOLATED FORMnMEDIAL FORM",
  "ARABIC LIGATURE YEH WITH MEEM WITH MEEM FINAL FORMkINITIAL FORMrYEH FINAL FORMyNOON FINAL FORM",
  "ARABIC LIGATURE YEH WITH REH FINAL FORMoYEH FINAL FORMkISOLATED FORMrZAIN FINAL FORM",
  "ARABIC LIGATURE ZAH WITH MEEM INITIAL FORMlSOLATED FORMnMEDIAL FORM",
  "ARABIC MADDA WAAJIBhH ABOVEkRK NOON GHUNNAlSIDEWAYS NOON GHUNNAxTHEMATICAL AINcLEFeBEHdDADbL",
  "ARABIC MATHEMATICAL DOTLESS BEHdFEHdNOONeQAFjUBLE-STRUCK AINdBEHdDADbLdFEHdGHAINfHAHdJEEMeKHAH",
  "ARABIC MATHEMATICAL DOUBLE-STRUCK LAMdMEEMeNOONeQAFdREHdSADcEENdHEENfTAHcEHcHALcEHeWAWdYEHdZAH",
  "ARABIC MATHEMATICAL DOUBLE-STRUCK ZAINsFEHdGHAINfHAHdINITIAL AINdBEHdDADdFEHdGHAINfHAHcEHdJEEM",
  "ARABIC MATHEMATICAL INITIAL KAFcHAHeLAMdMEEMeNOONeQAFdSADcEENdHEENfTEHcHEHeYEHlJEEMeKAFcHAH",
  "ARABIC MATHEMATICAL LAMcOOPED AINcLEFeBEHdDADbLdFEHdGHAINfHAHcEHdJEEMeKHAHeLAMdMEEMeNOONeQAF",
  "ARABIC MATHEMATICAL LOOPED REHdSADcEENdHEENfTAHcEHcHALcEHeWAWdYEHdZAHbINlMEEMeNOON",
  "ARABIC MATHEMATICAL OPERATOR HAH WITH DALmMEEM WITH HAH WITH TATWEEL",
  "ARABIC MATHEMATICAL QAFdREHdSADcEENdHEENeTRETCHED AINdBEHdDADcOTLESS BEHdFEHlFEHdGHAINfHAHcEH",
  "ARABIC MATHEMATICAL STRETCHED JEEMeKAFcHAHeMEEMeNOONeQAFdSADcEENdHEENfTAHcEHcHEHeYEHdZAHnTAH",
  "ARABIC MATHEMATICAL TAILED AINdDADcOTLESS NOONeQAFlGHAINfHAHdJEEMeKHAHeLAMdNOONeQAFdSADcEEN",
  "ARABIC MATHEMATICAL TAILED SHEENfYEHjEHcHALcEHeWAWdYEHdZAHbINrNUMBER MARK ABOVEkSIGN",
  "ARABIC OPEN DAMMATANiFATHATANiKASRATANnPERCENT SIGNlIASTRE MARK ABOVErLACE OF SAJDAH",
  "ARABIC POETIC VERSE SIGNpUND MARK ABOVEqQUESTION MARKnRAISED ROUND DOToYcEVERSED DAMMA",
  "ARABIC RIGHT ARROWHEAD ABOVEa WITH DOToBELOWuOUNDED HIGH STOP WITH FILLED CENTRE",
  "ARABIC SEMICOLONiHADDAa ISOLATED FORMnMEDIAL FORMrIGN ALAYHE ASSALLAMpMISRAfRADI ALLAHOU ANHU",
  "ARABIC SIGN RAHMATULLAH ALAYHEsSAFHAdLLALLAHOU ALAYHE WASSALLAM",
  "ARABIC SIGN SAMVATeNAHeINDHI AMPERSANDjPOSTPOSITION MENxTAKHALLUSnMALL DAMMAfFARSI YEHhTHA",
  "ARABIC SMALL HIGH AINdDOTLESS HEAD OF KHAHuFARSI YEHiOOTNOTE MARKERpJEEMeLAM ALEF",
  "ARABIC SMALL HIGH LIGATURE ALEF WITH LAM WITH YEHwQAF WITH LAM WITH ALEF MAKSURA",
  "ARABIC SMALL HIGH LIGATURE SAD WITH LAM WITH ALEF MAKSURA",
  "ARABIC SMALL HIGH MADDAeEEM INITIAL FORMlSOLATED FORMsNOONa WITH KASRApQAFdROUNDED ZEROmSAD",
  "ARABIC SMALL HIGH SEENdIGN SAFHAkTAHcHREE DOTSkUPRIGHT RECTANGULAR ZEROyWAWcORD AL-JUZfN-NISF",
  "ARABIC SMALL HIGH WORD AR-RUBfS-SAJDAhTH-THALATHAmQIFdSAHbKTAfWAQFAkYEH",
  "ARABIC SMALL HIGH YEH BARREE WITH TWO DOTS BELOW",
  "ARABIC SMALL HIGH ZAHbINjKASRAfLOW MEEMeNOON WITH KASRApSEENeWAWcORD IMAALAfSHMAAMhTASHEELqWAW",
  "ARABIC SMALL YEHiTART OF RUB EL HIZBtUBSCRIPT ALEFmKUNa BELOWfISOLATED FORMnMEDIAL FORM",
  "ARABIC SUPERSCRIPT ALEF MOKHASSASzYMBOL DOT ABOVEfBELOWhUBLE VERTICAL BAR BELOW",
  "ARABIC SYMBOL FOUR DOTS ABOVEfBELOWpRINGeSMALL TAH ABOVEfBELOWpTHREE DOTS ABOVEfBELOW",
  "ARABIC SYMBOL THREE DOTS POINTING DOWNWARDS ABOVEfBELOW",
  "ARABIC SYMBOL TWO DOTS ABOVEfBELOWfVERTICALLY ABOVEfBELOWzWASLA ABOVEsTAIL FRAGMENTlTWEEL",
  "ARABIC TATWEEL WITH FATHATAN ABOVEoOVERSTRUCK HAMZAfWAWoTWO DOTS BELOW",
  "ARABIC THOUSANDS SEPARATORsONE LOOP ABOVEfBELOWkONE DOT ABOVEfBELOWnTWO DOTS ABOVEfBELOW",
  "ARABIC TRIPLE DOT PUNCTUATION MARK",
  "ARABIC TURNED DAMMA BELOWsVERTICAL TAILmOWEL SIGN DOT BELOWjINVERTED SMALL V ABOVE",
  "ARABIC VOWEL SIGN SMALL V ABOVEyWAVY HAMZA BELOWqZWARAKAYj-INDIC CUBE ROOTjDIGIT EIGHTfFIVE",
  "ARABIC-INDIC DIGIT FOUReNINEeONEdSEVENeIXdTHREEeWOdZEROkFOURTH ROOTlPER MILLE SIGN",
  "ARABIC-INDIC PER TEN THOUSAND SIGN",
  "ARCbIESdMENIAN ABBREVIATION MARKqPOSTROPHEkCAPITAL LETTER AYBdBENdCAbHAbEHdOcDAcECHcHbTcFEH",
  "ARMENIAN CAPITAL LETTER GHADdIMdHOcINIdJAbHEHeKEHbNdLIWNeMENdNOWdOHcPEHcIWReRAbEHdSEHcHAdTIWN",
  "ARMENIAN CAPITAL LETTER TOcVEWcOcXEHdYIaWNeZAbHErOMMAfDRAM SIGNjEMPHASIS MARKmXCLAMATION MARK",
  "ARMENIAN FULL STOPjHYPHENgMODIFIER LETTER LEFT HALF RING",
  "ARMENIAN QUESTION MARKnSMALL LETTER AYBdBENdCAbHAbEHdOcDAcECHcHbTcFEHdGHADdIMdHOcINIdJAbHEH",
  "ARMENIAN SMALL LETTER KEHbNdLIWNeMENdNOWdOHcPEHcIWReRAbEHdSEHcHAdTIWNdObURNED AYBkVEWcOcXEHdYI",
  "ARMENIAN SMALL LETTER YI WITH STROKEmWNeZAbHEjIGATURE ECH YIWNiMEN ECHdINIdNOWdXEHhVEW NOW",
  "ARROW POINTING DOWNWARDS THEN CURVING LEFTWARDSjRIGHTWARDS",
  "ARROW POINTING RIGHTWARDS THEN CURVING DOWNWARDSjSOUTH WESTkUPWARDS",
  "ARROW POINTING UPWARDS THEN NORTH WEST",
  "ARROWHEAD-SHAPED POINTERwTICULATED LORRYnST PALETTEnSCENDING NODElIA SYMBOLkSERTIONhTERISK",
  "ASTERISK OPERATORkMfONISHED FACEmRAEAdONOMICAL SYMBOL FOR URANUS",
  "ASYMPTOTICALLY EQUAL TOwTHLETIC SHOElOM SYMBOLkUBERGINEhSTRAL SIGNkTO RICKSHAW",
  "AUTOMATED TELLER MACHINEtOBILEjVESTAN ABBREVIATION MARKrLETTER AaAaNbOcEaEcNbOcBEbHEdCEcDEbHE",
  "AVESTAN LETTER EaEcFEcGEbGEcHEdHEbMEdIaIcJEcKEcLEcMEcNEbGEbVEcYEdNEcYEdOaOcPEcREcSEbHEbYEdSHE",
  "AVESTAN LETTER TEbHEcTEdUaUcVEcXEbVEcYEdYEbYEdZEbHEqOCADOgXEdBABYa ANGELfBOTTLEgCHICKfSYMBOL",
  "BACK OF ENVELOPElWITH LEFTWARDS ARROW ABOVE",
  "BACK-TILTED SHADOWED WHITE RIGHTWARDS ARROW",
  "BACKSLANTED SOUTH ARROW WITH HOOKED TAILjRIZONTAL TAIL",
  "BACKSPACEgONcTRIAN CAMELmDGERdMINTON RACQUET AND SHUTTLECOCK",
  "BAGELcGAGE CLAIMkUETTE BREADmLINESE ADEG ADEGjCARIK PAMUNGKAHhRERENhSIKIkDIGIT EIGHTfFIVEdOUR",
  "BALINESE DIGIT NINEeONEdSEVENeIXdTHREEeWOdZEROkLETTER AIKARAfKARAa TEDUNGlRCHAIC JNYA",
  "BALINESE LETTER ASYURA SASAKmBAa KEMBANGkCAa LACAhDAa MADUdURDA ALPAPRANAjMAHAPRANAsEF SASAK",
  "BALINESE LETTER EKARAfGAa GORAhHAcIKARAa TEDUNGmJAa JERAhKAa MAHAPRANAkF SASAKiHOT SASAKkLA",
  "BALINESE LETTER LA LENGAa TEDUNGpMAcNAa RAMBATiGAcYAdOKARAa TEDUNGmPAa KAPALiRAa REPAa TEDUNG",
  "BALINESE LETTER SAa SAGAcPAhTAa LATIKfMURDA MAHAPRANApTAWAgZIR SASAKkUKARAa TEDUNGmVE SASAKiWA",
  "BALINESE LETTER YAcZAL SASAKqMUSICAL SYMBOL COMBINING BENDEfENDEPfGONGeJEGOGANhKEMPLI",
  "BALINESE MUSICAL SYMBOL COMBINING KEMPLI WITH JEGOGANpULa WITH JEGOGANtTEGEHpDAENGdINGdNG",
  "BALINESE MUSICAL SYMBOL DANG GEDEeSURANGkENGcUNGeINGdONGdUNGeLEFT-HAND CLOSED PLAKcUK",
  "BALINESE MUSICAL SYMBOL LEFT-HAND OPEN PANGdINGdUNGtRIGHT-HAND CLOSED TAKcUKkOPEN DAGcUG",
  "BALINESE PAMADAa LANTANGlENENGgNTIa LANTANGnSIGN BISAHfCECEKfREREKANhSURANGgULU CANDRAgRICEM",
  "BALINESE VOWEL SIGN LA LENGAa TEDUNGpPEPETa TEDUNGmRA REPAa TEDUNGoSUKUa ILUTjTALINGa REPA",
  "BALINESE VOWEL SIGN TALING REPA TEDUNGlTEDUNGmEDUNGgULUa SARItWINDUlL OF YARNiET SHOESiOON",
  "BALLOON-SPOKED ASTERISKsT BOLD SCRIPT XlXa WITH BALLOTfOLD CHECKfSCRIPT XnCHECKfLIGHT X",
  "BALLOT BOX WITH SCRIPT XiXkSCRIPT XiXgMUM COLONdMBINING MARK KOQNDONhTUKWENTISvMAfFULL STOP",
  "BAMUM LETTER AbEEcFAAMAEfEEcOMcUcIbKAbENbTbUXdIbOaGHOMeVUUePAcUbYEEeLAbEEEEeIbOQcUcMaAbBAAcEN",
  "BAMUM LETTER MEEEEdNcIbObUcNAbDAAdGAbGAcKWAENgIbJAEMdEEcUAEeSHAdTEEcUUdUaAEdYIdObPAbEEbUX",
  "BAMUM LETTER PHASE-A FIRIeGBIEE FONiHEUAEGHEUAEgRAEjKAFAcQcETbUKEUTNDAjPOQdUOQeLAPAQeET KUT",
  "BAMUM LETTER PHASE-A LOMMAEfUaAEPfMAEKEUPeMaBGBIEEgKPENeVEUXfNYIdSIdNSUAEfP PIEETiBANYIdQ",
  "BAMUM LETTER PHASE-A MEUNJOMNDEUQlGBASAfON NGGEUAETkOMEUTdPUQgVEUAENGAMkNAA MFONgQcDA LEERAEWA",
  "BAMUM LETTER PHASE-A NDAANGGEUAETlENcGANGUeGENdKUE MFONfNZEUMjIKAdJAMdKAARAEfINDIfSHAbIEEfTAP",
  "BAMUM LETTER PHASE-A NTAP MFAAeNTAAhOQPENgYETcIaT MONGKEUAEQoZA MFONgUN MEUTjPA LEERAEWAjAM",
  "BAMUM LETTER PHASE-A PAARAEeMSHAEfSHAEfETcON MFON PIPAEMBAcGBIEEqPA NJI PIPAEMBAcGBIEEvUPdROM",
  "BAMUM LETTER PHASE-A SEUNYAMgHINDA PA NJIkRAEeOQ NSHUT YUMmUENSHUEThMdISAdONJAMeQbTcUUdTEUAEN",
  "BAMUM LETTER PHASE-A TEUTEUWENiITA MFONiU MAEMBAhAEPfU YUQ NAEiNKNOWNhVEEfB FEEbUXeGHEUGHEN",
  "BAMUM LETTER PHASE-B GHEUGHEUAEMlKAMcEUAEMdPUQdYEUXgIEEMdQdLAANAEeM NSHUT NYAMnETcOM NTEUMjMA",
  "BAMUM LETTER PHASE-B MA NJEUAENAgUQAhBA MAELEEhARAEfEURIeIT MBAAKETkUOQeEUQbT NGGEETkFIYAQ",
  "BAMUM LETTER PHASE-B MFON TEUAEQkONTIEENiNDU NJAAhGGAAMdEU MBUgUOQa LARGEkKINDI MVOPkOMdSEN",
  "BAMUM LETTER PHASE-B NSHUETfTIEE SHEUOQlYAEMAEfI NTEUMjPARUMeEESHIfITcUNGAAMhSAKEUAEgET TU",
  "BAMUM LETTER PHASE-B SHET NJAQgUAEQTUiIEEdUEdTAAMdU MAEMGBIEEjNSIEEiVEUMeWUAETfYAFU LEERAEWA",
  "BAMUM LETTER PHASE-B YEURAEiC BUNGeFUEdGBAYIeHAPbRAEgKAAcEN FATIGUEhLAWfTbUKAQdMbSEUXdHEUAEP",
  "BAMUM LETTER PHASE-C KPARAQfUOP NKAARAEkTdLAMbPcIQcUcMA KEUAERIhNSIEEgEMBAdSIeBAA CABBAGE-TREE",
  "BAMUM LETTER PHASE-C MBAA PICKETiNYIeEEKEETfRAEdUMbXdIaRIEENfTcUAEMdEdGBASAQgIEEdUAEeNANSANAQ",
  "BAMUM LETTER PHASE-C NAQcDAMbPcEUAEREEfTdIDAdOMBUfGAQcGENcUaAEN NYAMiEETdMbONeKAQcUE MAEMBAkOM",
  "BAMUM LETTER PHASE-C NJAEMcMcEEEEdUXdUEQeSAbEUAENfHAQdOMcUNbOT NGOMjTAAcENbUNGBAgU MBIT",
  "BAMUM LETTER PHASE-C NYIR MKPARAQ MEUNqZAbEUMfPENcINbRIEENhRUcSETFONeUXdHIQcUEQeUAETfTAASHAE",
  "BAMUM LETTER PHASE-C TETbUTEUXgITA YUEfUAEPhVEUAEPENfXeWANGKUOQhUPdYAAcEUQdU MUOMAEhMbWOQ",
  "BAMUM LETTER PHASE-D FAAcEUFEUAETjGHAAcEUAEgKETbUAETMEUNhMbOT MBUAEiPdUaNbOMcQcWAETeYEEeLEEEE",
  "BAMUM LETTER PHASE-D LETbUAEPdMdIEEdOQcUMdMaAENJETfLEERIgBAAa SEVENiUOdEEEEdUNbTdFEUAEcTdIEEdO",
  "BAMUM LETTER PHASE-D MFONdGBEUNdIEEdOFUMgONIdUbVOPeNDAMcEEbUXdONdGGAAMaAEePcEUXdUOMdWAENfKAP",
  "BAMUM LETTER PHASE-D NGKEUAEQdRIeIEEdUNcYEEfIbJAPcEUAEMdTdIaEEdUEQeSHEEcUTdIEEPbTeUMdTEEbUMdUU",
  "BAMUM LETTER PHASE-D NUbYAMcETcIbUEePAPcEEbUTAEfIPcUQbUTeRAEMdEN MUCHeOLDgIIdSAPbQcEUAEQfHEE",
  "BAMUM LETTER PHASE-D SHEUAEcXdIIcOQcUcOTcUAEcEbUdTAEcEEEEdUAENdNbTdIbOQcUaOTeWAPcUAENfYAEMMAE",
  "BAMUM LETTER PHASE-D YENcUOMbPcWOQhE AbFAaQcEEcOMcU CALLeIbREMEDYhEaTeGBETbUXeHAAMAEfETbUAEcN",
  "BAMUM LETTER PHASE-E GHEUXdOMeIbKETbUAEcXdIbObPEUXeUETcOPcTdLAAMcPbQcEUAEMfOMbONbTcQcUcMAaEaM",
  "BAMUM LETTER PHASE-E MAPbQcBEEbUMeENcFEUQeGBAbENeIaEEdONcUAEdVIdNAaEcDAA MY HOUSEiSOFTNESSkP",
  "BAMUM LETTER PHASE-E NDIAQcQcUNdGAbEUREUTgGEEEEdUAEaTfUAESHAE NYAMlPbRAEfKAaAMIeEUAEMdXdUMbP",
  "BAMUM LETTER PHASE-E NGOPbQcUAEaTfJAEMLIfEEa EPOCHhUXeKOMdSHIEEdUEbOPfTAPcUMdYI BETWEEN",
  "BAMUM LETTER PHASE-E NYI CLEAVERkZAQcUQeObPA PEOPLEfLURALhAaMdEEMcUTbXdIaEEQcTdOaONdUaAEbQcEbM",
  "BAMUM LETTER PHASE-E RAEbQcEUXdIMGBAgSAAcEEbTcHEUAEQfIQcOaQdOMcUAENfTAAaQcEN NTEUMiMbQcENbU",
  "BAMUM LETTER PHASE-E TEUAEQfOOaNcQcUAEcMaAEfVEEbUAEeOMdWEUXdUEbOdYAPcEUAEaTdMbXdIEEcTcOQ COVER",
  "BAMUM LETTER PHASE-E YOQ SWIMMINGlUAENdEQcNbQfF EEcFOMdKAbENbTcObPAcUbYEEeLAbIbOQdMaAbBAAcEN",
  "BAMUM LETTER PHASE-F MEEEEeOcNDAAdGGAcKWAENgIbJAEMdUAEeSHAdTEEdUaAEdYIdPEEbUXdUAEeREEbNbUXdIEE",
  "BAMUM LETTER PHASE-F RIIcUcSAMBAeEUXdHIIcObUcIbUUdTAAbEcETdUbVUEQeWAbUEdYAbOQkIbUAEcEdRAEcEEbN",
  "BAMUM LETTER REUXdIEEcIcUcSAMBAeEUXdHEUXdIIcObUcIbUUdTAAbEcENbTcIcUbWAbUEdYAbOQcUQkNJAEMLI",
  "BAMUM QUESTION MARKnSEMICOLONnNANAdJOcKaNOTE WITH DOLLAR SIGNlEURO SIGNjPOUND SIGNkYEN SIGN",
  "BAR CHARTfOF SOAPiBER POLEjSEBALLfKETaBALL AND HOOPqSA VAH COMBINING HIGH TONEf-LOW TONE",
  "BASSA VAH COMBINING LOW TONEf-MID TONEmMID TONEsFULL STOPjLETTER AbBAcCEcDHIIdOcEaEbNNIeFAcGAH",
  "BASSA VAH LETTER GBUdHWAHeIbJOcKAbPAHeMBEdOaOcPAcSEcTOcUaWUdVUcWAaDDAfYEINdIEdZOrT",
  "BATAK CONSONANT SIGN HbNGrLETTER AbBAcCAcDAcGAcHAcIbJAcKARO BAhLAcMAaNDAILING HAcNAcSAmBAdNA",
  "BATAK LETTER NDAcGAcORTHERN TAkYAdPAaKPAK WAjRAcSAbIMALUNGUN AbGAcHAcLAcMAcPAcRAcSAcWAcYA",
  "BATAK LETTER SOUTHERN TAlUbWAcYAjPANGOLATfONGONANkSIGN TOMPIjYMBOL BINDU JUDULfNA METEK",
  "BATAK SYMBOL BINDU PANGOLAThINARBORASxVOWEL SIGN EaEcIbKARO IbOgObPAKPAK EiU",
  "BATAK VOWEL SIGN U FOR SIMALUNGUN SA",
  "BATHaTUBeTERYgEACH WITH UMBRELLAqMED ASCENDING MUSICAL NOTESxDESCENDING MUSICAL NOTES",
  "BEAMED EIGHTH NOTESmSIXTEENTH NOTEStNScR FACEfDED PERSONlTING HEARTkVEReCAUSEfDbER MUGfTLEeLaL",
  "BELL PEPPERgSYMBOLgWITH CANCELLATION STROKEzHOP BELLkNGALI ABBREVIATION SIGNqNJIdU LENGTH MARK",
  "BENGALI CURRENCY DENOMINATOR SIXTEENtNUMERATOR FOUReONEa LESS THAN THE DENOMINATOR",
  "BENGALI CURRENCY NUMERATOR THREEeWOwDIGIT EIGHTfFIVEdOUReNINEeONEdSEVENeIXdTHREEeWOdZERO",
  "BENGALI GANDA MARKkISSHARgLETTER AaAbIbUcBAbHAdCAbHAdDAbDAbHAdHAdEbGAbHAdHAcIaIcJAbHAdKAbHA",
  "BENGALI LETTER KHANDA TAjLAcMAcNAbGAcNAcYAdObPAbHAdRAa WITH LOWER DIAGONALoMIDDLE DIAGONALwHA",
  "BENGALI LETTER RRAdSAbHAcSAdTAbHAcTAbHAeUaUcVEDIC ANUSVARAnOCALIC LaLcRaRkYAbYAkRUPEE MARK",
  "BENGALI RUPEE SIGNkSANDHI MARKkIGN ANUSVARAhVAGRAHAiCANDRABINDUlNUKTAfVIRAMAeSARGA",
  "BENGALI VOWEL SIGN AAbIbUcEbIaIcObUaUcVOCALIC LaLcRaR",
  "BENT ARROW POINTING DOWNWARDS THEN NORTH EAST",
  "BENTO BOXgZENE RINGa WITH CIRCLEwT SYMBOLhWEENfVERAGE BOXlHAIKSUKI DANDAeIGIT EIGHTfFIVEdOUR",
  "BHAIKSUKI DIGIT NINEeONEdSEVENeIXdTHREEeWOdZEROjOUBLE DANDAmGAP FILLER-1b2mHUNDREDS UNIT MARK",
  "BHAIKSUKI LETTER AaAbIbUcBAbHAdCAbHAdDAbDAbHAdHAdEbGAbHAdHAcIaIcJAbHAdKAbHAdLAcMAcNAbGAcNAcYA",
  "BHAIKSUKI LETTER ObPAbHAdRAcSAbHAcSAdTAbHAcTAbHAeUaUcVAbOCALIC LbRaRkYAjNUMBER EIGHTaYgFIFTY",
  "BHAIKSUKI NUMBER FIVEdORTYdUReNINEaTYgONEdSEVENaTYgIXaTYfTENcHIRTYeREEeWENTYeOkSIGN ANUSVARA",
  "BHAIKSUKI SIGN AVAGRAHAiCANDRABINDUlVIRAMAeSARGAmVOWEL SIGN AAbIbUcEbIaIcObUaUcVOCALIC LbRaR",
  "BHAIKSUKI WORD SEPARATORxICYCLEbISThG REVERSE SOLIDUSpSOLIDUSjKINIeLLED CAPgIARDShOHAZARD SIGN",
  "BIRDbTHDAY CAKElSONdTCOIN SIGNjING LIPjLACK BOWTIEgCENTRE WHITE STARqHESS BISHOP",
  "BLACK CHESS BISHOP ROTATED NINETY DEGREESoTWO HUNDRED SEVENTY DEGREES",
  "BLACK CHESS EQUIHOPPERa ROTATED NINETY DEGREES",
  "BLACK CHESS KINGa ROTATED NINETY DEGREESoTWO HUNDRED SEVENTY DEGREES",
  "BLACK CHESS KNIGHTa ROTATED FORTY-FIVE DEGREESsNINETY DEGREESoONE HUNDRED THIRTY-FIVE DEGREES",
  "BLACK CHESS KNIGHT ROTATED THREE HUNDRED FIFTEEN DEGREES",
  "BLACK CHESS KNIGHT ROTATED TWO HUNDRED SEVENTY DEGREESpTWENTY-FIVE DEGREES",
  "BLACK CHESS KNIGHT-BISHOPgQUEENfROOKlPAWNa ROTATED NINETY DEGREESoTWO HUNDRED SEVENTY DEGREES",
  "BLACK CHESS QUEENa ROTATED NINETY DEGREESoTWO HUNDRED SEVENTY DEGREES",
  "BLACK CHESS ROOKa ROTATED NINETY DEGREESoTWO HUNDRED SEVENTY DEGREES",
  "BLACK CHESS TURNED BISHOPgKINGdNIGHTgPAWNeQUEENfROOKqIRCLEa FOR RECORDkWITH DOWN ARROW",
  "BLACK CIRCLE WITH TWO WHITE DOTSoWHITE DOT RIGHT",
  "BLACK CLUB SUITiROSS ON SHIELDoURVED DOWNWARDS AND LEFTWARDS ARROWpRIGHTWARDS ARROW",
  "BLACK CURVED LEFTWARDS AND DOWNWARDS ARROWpUPWARDS ARROW",
  "BLACK CURVED RIGHTWARDS AND DOWNWARDS ARROWpUPWARDS ARROW",
  "BLACK CURVED UPWARDS AND LEFTWARDS ARROWpRIGHTWARDS ARROW",
  "BLACK DIAMONDa CENTREDhMINUS WHITE XnON CROSSiSUITeWITH DOWN ARROWwOWN POINTING BACKHAND INDEX",
  "BLACK DOWN-POINTING DOUBLE TRIANGLEpISOSCELES RIGHT TRIANGLEySMALL TRIANGLEoTRIANGLE",
  "BLACK DOWNWARDS EQUILATERAL ARROWHEAD",
  "BLACK DRAUGHTS KINGeMANkOPLEThFLAGcORETTEhOLDEReUR POINTED STARrHARD SHELL FLOPPY DISKvEART",
  "BLACK HEART SUITiXAGONgORIZONTAL ELLIPSEqURGLASSjLARGE CIRCLEgSQUARElEFT LANE MERGE",
  "BLACK LEFT POINTING BACKHAND INDEXoINDEXp-POINTING DOUBLE TRIANGLEa WITH VERTICAL BAR",
  "BLACK LEFT-POINTING ISOSCELES RIGHT TRIANGLEyPOINTERhSMALL TRIANGLEoTRIANGLEsWARDS BULLET",
  "BLACK LEFTWARDS EQUILATERAL ARROWHEAD",
  "BLACK LOWER LEFT TRIANGLEnRIGHT TRIANGLEsZENGEhMEDIUM DIAMONDgOWN-POINTING TRIANGLEa CENTRED",
  "BLACK MEDIUM LEFT-POINTING TRIANGLEa CENTRED",
  "BLACK MEDIUM LOZENGEhRIGHT-POINTING TRIANGLEa CENTRED",
  "BLACK MEDIUM SMALL DIAMONDhLOZENGEhSQUARElQUAREgUP-POINTING TRIANGLEa CENTRED",
  "BLACK MOON LILITHlNIBdOCTAGONhPARALLELOGRAMmENNANTeTAGONhUSHPINhQUESTION MARK ORNAMENT",
  "BLACK RECTANGLEiIGHT POINTING BACKHAND INDEXoINDEXp-POINTING DOUBLE TRIANGLE",
  "BLACK RIGHT-POINTING DOUBLE TRIANGLE WITH VERTICAL BAR",
  "BLACK RIGHT-POINTING ISOSCELES RIGHT TRIANGLEyPENTAGONhOINTERhSMALL TRIANGLEoTRIANGLE",
  "BLACK RIGHT-POINTING TRIANGLE WITH DOUBLE VERTICAL BAR",
  "BLACK RIGHTWARDS ARROWaHEADjBULLETgEQUILATERAL ARROWHEAD",
  "BLACK ROSETTEhSAFETY SCISSORSoCISSORShHOGI PIECEkKULL AND CROSSBONEStLIGHTLY SMALL CIRCLE",
  "BLACK SLIGHTLY SMALL SQUAREuMALL DIAMONDhLOZENGEhSQUAREfTARiILING FACElNOWMANgPADE SUITjQUARE",
  "BLACK SQUARE BUTTONgCENTREDhFOR STOPoTARdUN WITH RAYSnTELEPHONEiINY DIAMONDhLOZENGEhSQUARE",
  "BLACK TOUCHTONE TELEPHONEsRUCKeWO-WAY LEFT WAY TRAFFICyUNIVERSAL RECYCLING SYMBOL",
  "BLACK UP POINTING BACKHAND INDEXy-POINTING DOUBLE TRIANGLEpISOSCELES RIGHT TRIANGLE",
  "BLACK UP-POINTING SMALL TRIANGLEoTRIANGLEsPER LEFT TRIANGLEnRIGHT TRIANGLE",
  "BLACK UPWARDS EQUILATERAL ARROWHEAD",
  "BLACK VERTICAL ELLIPSEhRECTANGLEpY SMALL DIAMONDhLOZENGEhSQUAREs-FEATHERED NORTH EAST ARROW",
  "BLACK-FEATHERED RIGHTWARDS ARROWqSOUTH EAST ARROW",
  "BLACK-LETTER CAPITAL CbHbIbRbZtNK SYMBOLkOCK SEXTANT-1a2a3a4a5b6c5a6c6c4a5a6c6c5a6c6c3a4a5a6c6",
  "BLOCK SEXTANT-1356c6c4a5a6c6c5a6c6c2a3a4a5a6c6c5a6c6c4a5a6d5a6c6c3a4a5a6c6c5a6c6c4a5a6c6c5a6c6",
  "BLOSSOMeWFISHgUE BOOKeHEARTgBERRIESkOARcLD EIGHT SPOKED ASTERISKvFIVE SPOKED ASTERISK",
  "BOLD GREEK CROSSlSALTIREgIX SPOKED ASTERISKtWHITE CIRCLEgSQUAREpMaBcNEcOKaMARKa TABSjScMERANG",
  "BOPOMOFO FINAL LETTER GbHbKbPbToLETTER AaHbIaNNdMbNaGbNcUaNNeBaUcCaHcDbEaEbHbIbNaGbNcRcFbGaHbN",
  "BOPOMOFO LETTER GUbWcHbIaHbMbNNaNdRbUcJaIcKaWcLaHcMbNaGaGcNcOa WITH DOT ABOVEpEbMbNGbNcObUcPbQ",
  "BOPOMOFO LETTER RbSaHcTbUaNNdVbXbZaHbIbYqTTLE WITH POPPING CORKuOM ARC ANTICLOCKWISE ARROW",
  "BOTTOM CURLY BRACKETnHALF BLACK CIRCLEmINTEGRALiLEFT PARENTHESISqRIGHT PARENTHESISwLEFT CORNER",
  "BOTTOM LEFT CROPeHALF BRACKETrPARENTHESISlRIGHT CORNERfROPeHALF BRACKETsSQUARE BRACKET",
  "BOTTOM SQUARE BRACKET OVER TOP SQUARE BRACKET",
  "BOTTOM TORTOISE SHELL BRACKET",
  "BOUQUETa OF FLOWERSqW AND ARROWkL OF HYGIEIAkWITH SPOONlINGeTIEa WITH LEFT HALF BLACK",
  "BOWTIE WITH RIGHT HALF BLACK",
  "BOX DRAWINGS DOUBLE DOWN AND HORIZONTALkLEFTeRIGHToHORIZONTALkUP AND HORIZONTALkLEFTeRIGHT",
  "BOX DRAWINGS DOUBLE VERTICALa AND HORIZONTALkLEFTeRIGHTxWN DOUBLE AND HORIZONTAL SINGLE",
  "BOX DRAWINGS DOWN DOUBLE AND LEFT SINGLElRIGHT SINGLExHEAVY AND HORIZONTAL LIGHTqLEFT LIGHT",
  "BOX DRAWINGS DOWN HEAVY AND LEFT UP LIGHTnRIGHT LIGHTfUP LIGHToUP HORIZONTAL LIGHT",
  "BOX DRAWINGS DOWN LIGHT AND HORIZONTAL HEAVYqLEFT HEAVYfUP HEAVYnRIGHT HEAVYfUP HEAVY",
  "BOX DRAWINGS DOWN LIGHT AND UP HORIZONTAL HEAVY",
  "BOX DRAWINGS DOWN SINGLE AND HORIZONTAL DOUBLErLEFT DOUBLElRIGHT DOUBLE",
  "BOX DRAWINGS HEAVY DOUBLE DASH HORIZONTALkVERTICALsWNa AND HORIZONTALkLEFTeRIGHToHORIZONTAL",
  "BOX DRAWINGS HEAVY LEFTa AND LIGHT RIGHTuQUADRUPLE DASH HORIZONTALkVERTICALxRIGHT",
  "BOX DRAWINGS HEAVY TRIPLE DASH HORIZONTALkVERTICALuUPa AND HORIZONTALkLEFTdIGHT DOWNkRIGHT",
  "BOX DRAWINGS HEAVY VERTICALa AND HORIZONTALkLEFTeRIGHTyLEFT DOWN HEAVY AND RIGHT UP LIGHT",
  "BOX DRAWINGS LEFT HEAVY AND RIGHT DOWN LIGHTkUP LIGHTiVERTICAL LIGHT",
  "BOX DRAWINGS LEFT LIGHT AND RIGHT DOWN HEAVYkUP HEAVYiVERTICAL HEAVY",
  "BOX DRAWINGS LEFT UP HEAVY AND RIGHT DOWN LIGHT",
  "BOX DRAWINGS LIGHT ARC DOWN AND LEFTeRIGHToUP AND LEFTeRIGHTqDIAGONAL CROSSfDIAMOND",
  "BOX DRAWINGS LIGHT DIAGONAL MIDDLE LEFT TO LOWER CENTREa TO MIDDLE RIGHT",
  "BOX DRAWINGS LIGHT DIAGONAL MIDDLE LEFT TO UPPER CENTRE TO MIDDLE RIGHTa TO LOWER CENTRE",
  "BOX DRAWINGS LIGHT DIAGONAL MIDDLE RIGHT TO LOWER CENTRE",
  "BOX DRAWINGS LIGHT DIAGONAL MIDDLE RIGHT TO UPPER CENTRE TO MIDDLE LEFT TO LOWER CENTRE",
  "BOX DRAWINGS LIGHT DIAGONAL UPPER CENTRE TO MIDDLE LEFTa AND MIDDLE RIGHT TO LOWER CENTRE",
  "BOX DRAWINGS LIGHT DIAGONAL UPPER CENTRE TO MIDDLE LEFT TO LOWER CENTREa TO MIDDLE RIGHT",
  "BOX DRAWINGS LIGHT DIAGONAL UPPER CENTRE TO MIDDLE RIGHTa AND MIDDLE LEFT TO LOWER CENTRE",
  "BOX DRAWINGS LIGHT DIAGONAL UPPER CENTRE TO MIDDLE RIGHT TO LOWER CENTREa TO MIDDLE LEFT",
  "BOX DRAWINGS LIGHT DIAGONAL UPPER LEFT TO LOWER RIGHTtRIGHT TO LOWER LEFT",
  "BOX DRAWINGS LIGHT DOUBLE DASH HORIZONTALkVERTICALsWNa AND HORIZONTALkLEFTeRIGHToHORIZONTAL",
  "BOX DRAWINGS LIGHT HORIZONTAL WITH VERTICAL STROKE",
  "BOX DRAWINGS LIGHT LEFTa AND HEAVY RIGHTuQUADRUPLE DASH HORIZONTALkVERTICALxRIGHT",
  "BOX DRAWINGS LIGHT TRIPLE DASH HORIZONTALkVERTICALuUPa AND HEAVY DOWNjORIZONTALkLEFTeRIGHT",
  "BOX DRAWINGS LIGHT VERTICALa AND HORIZONTALkLEFTeRIGHTyRIGHT DOWN HEAVY AND LEFT UP LIGHT",
  "BOX DRAWINGS RIGHT HEAVY AND LEFT DOWN LIGHTkUP LIGHTiVERTICAL LIGHT",
  "BOX DRAWINGS RIGHT LIGHT AND LEFT DOWN HEAVYkUP HEAVYiVERTICAL HEAVY",
  "BOX DRAWINGS RIGHT UP HEAVY AND LEFT DOWN LIGHT",
  "BOX DRAWINGS UP DOUBLE AND HORIZONTAL SINGLErLEFT SINGLElRIGHT SINGLE",
  "BOX DRAWINGS UP HEAVY AND DOWN HORIZONTAL LIGHTvHORIZONTAL LIGHTqLEFT DOWN LIGHTkLIGHT",
  "BOX DRAWINGS UP HEAVY AND RIGHT DOWN LIGHTkLIGHTvLIGHT AND DOWN HORIZONTAL HEAVY",
  "BOX DRAWINGS UP LIGHT AND HORIZONTAL HEAVYqLEFT DOWN HEAVYkHEAVYkRIGHT DOWN HEAVYkHEAVY",
  "BOX DRAWINGS UP SINGLE AND HORIZONTAL DOUBLErLEFT DOUBLElRIGHT DOUBLE",
  "BOX DRAWINGS VERTICAL DOUBLE AND HORIZONTAL SINGLErLEFT SINGLElRIGHT SINGLE",
  "BOX DRAWINGS VERTICAL HEAVY AND HORIZONTAL LIGHTqLEFT LIGHTkRIGHT LIGHT",
  "BOX DRAWINGS VERTICAL LIGHT AND HORIZONTAL HEAVYqLEFT HEAVYkRIGHT HEAVY",
  "BOX DRAWINGS VERTICAL SINGLE AND HORIZONTAL DOUBLErLEFT DOUBLElRIGHT DOUBLE",
  "BOXING GLOVEkYaS SYMBOLkPHcRAHMI DANDAeIGIT EIGHTfFIVEdOUReNINEeONEdSEVENeIXdTHREEeWOdZERO",
  "BRAHMI DOUBLE DANDAmLETTER AaAbIbUcBAbHAdCAbHAdDAbDAbHAdHAdEbGAbHAdHAcIaIcJAbHAdKAbHAdLAbLAdMA",
  "BRAHMI LETTER NAbGAcNAcYAdOaLD TAMIL LLAbLAeNNNAeRRAdSHORT EbOrPAbHAdRAcSAbHAcSAdTAbHAcTAbHAeU",
  "BRAHMI LETTER UUcVAbOCALIC LaLcRaRkYAjNUMBER EIGHTaYgFIFTYdVEdORTYdUReJOINERgNINEaTYgONE",
  "BRAHMI NUMBER ONE HUNDREDhTHOUSANDmSEVENaTYgIXaTYfTENcHIRTYeREEeWENTYeO",
  "BRAHMI PUNCTUATION CRESCENT BARmDOTbUBLE DOTkLINEdOTUSrSIGN ANUSVARAiCANDRABINDUlJIHVAMULIYA",
  "BRAHMI SIGN OLD TAMIL VIRAMAqUPADHMANIYAlVISARGAmVIRAMAfOWEL SIGN AAbIbUcBHATTIPROLU AAoEbIaI",
  "BRAHMI VOWEL SIGN OaLD TAMIL SHORT EbOrUaUcVOCALIC LaLcRaRzILLE PATTERN BLANKfDOTS-1a2a3a4a5a6",
  "BRAILLE PATTERN DOTS-1234567a8c8c7a8c8c6a7a8c8c7a8c8c5a6a7a8c8c7a8c8c6a7a8c8c7a8c8c4a5a6a7a8c8",
  "BRAILLE PATTERN DOTS-12457a8c8c6a7a8c8c7a8c8c5a6a7a8c8c7a8c8c6a7a8c8c7a8c8c3a4a5a6a7a8c8c7a8c8",
  "BRAILLE PATTERN DOTS-1346a7a8c8c7a8c8c5a6a7a8c8c7a8c8c6a7a8c8c7a8c8c4a5a6a7a8c8c7a8c8c6a7a8c8",
  "BRAILLE PATTERN DOTS-147a8c8c5a6a7a8c8c7a8c8c6a7a8c8c7a8c8c2a3a4a5a6a7a8c8c7a8c8c6a7a8c8c7a8c8",
  "BRAILLE PATTERN DOTS-235a6a7a8c8c7a8c8c6a7a8c8c7a8c8c4a5a6a7a8c8c7a8c8c6a7a8c8c7a8c8c5a6a7a8c8",
  "BRAILLE PATTERN DOTS-257a8c8c6a7a8c8c7a8c8c3a4a5a6a7a8c8c7a8c8c6a7a8c8c7a8c8c5a6a7a8c8c7a8c8c6",
  "BRAILLE PATTERN DOTS-367a8c8c7a8c8c4a5a6a7a8c8c7a8c8c6a7a8c8c7a8c8c5a6a7a8c8c7a8c8c6a7a8c8c7a8",
  "BRAILLE PATTERN DOTS-8sNdEADbK PERMITTED HEREqST-FEEDINGlVEdICKcDE WITH VEILlGE AT NIGHT",
  "BRIEFCASEeSeOCCOLIfKEN BARdCIRCLE WITH NORTHWEST ARROW",
  "BROKEN HEARTjOMcWN HEARTkSbUBBLE TEAeSfCKETeGaINESE END OF SECTIONoLETTER AbBAcCAcDAcGAcHAcJA",
  "BUGINESE LETTER KAcLAcMAbPAdNAbGAbKAdRAcYAbCAePAcRAcSAcTAcVAcYAjPALLAWAhVOWEL SIGN AEcEbIbObU",
  "BUHID LETTER AbBAcDAcGAcHAcIbKAcLAcMAcNAbGAdPAcRAcSAcTAcUbWAcYAjVOWEL SIGN IbU",
  "BUILDING CONSTRUCTIONtLLETa OPERATORlHORNa WITH SOUND WAVESvSEYEgRRITOfSa STOPfT IN SILHOUETTE",
  "BUSTS IN SILHOUETTErTTERaFLYiYTE ORDER MARKnZANTINE MUSICAL SYMBOL AGOGI ARGIbOTERIiGORGI",
  "BYZANTINE MUSICAL SYMBOL AGOGI GORGOTERIjMESIcTRIAgPOLI ARGIeGORGIpNATRICHISMAkTIKENOKYLISMA",
  "BYZANTINE MUSICAL SYMBOL ANTIKENOMAjPESO EKFONITIKONkXO NEOlLIcODERMA ARCHAIONiNEO",
  "BYZANTINE MUSICAL SYMBOL APOSTROFOI SYNDESMOS NEOnTELOUS ICHIMATOSsSa DIPLIfNEOlTHEMAhRGON",
  "BYZANTINE MUSICAL SYMBOL ARGOSYNTHETONlKTIKO DIcGAcKEcNIcPAcVOUdZOkCHAMILIbONgOREVMA ARCHAION",
  "BYZANTINE MUSICAL SYMBOL CHOREVMA NEOkROA KLITONgSPATHIgZYGOSlDASEIAfIARGONeSTOLI APLI MEGALI",
  "BYZANTINE MUSICAL SYMBOL DIASTOLI APLI MIKRIkDIPLIfTHESEOSoESIS APLI DYO DODEKATA",
  "BYZANTINE MUSICAL SYMBOL DIESIS DIGRAMMOS EX DODEKATAvMONOGRAMMOS TESSERA DODEKATA",
  "BYZANTINE MUSICAL SYMBOL DIESIS TETARTIMORIONmRIGRAMMOS OKTO DODEKATAvTIMORIONqFTOGGOS OU",
  "BYZANTINE MUSICAL SYMBOL DIGORGONa PARESTIGMENON ARISTERA ANOdKATOnDEXIAzRAMMA GGjPLI",
  "BYZANTINE MUSICAL SYMBOL DIPLI ARCHAIONnYOdEKSTREPTONjLAFRONgNARXIS KAI FTHORA VOUuDOFONON",
  "BYZANTINE MUSICAL SYMBOL EPEGERMAhTERON ARGOSYNTHETONnPARAKALESMArXO EKFONITIKON",
  "BYZANTINE MUSICAL SYMBOL FANEROSIS DIFONIASiMONOFONIASkTETRAFONIASuHTORA SKLIRON CHROMA VASIS",
  "BYZANTINE MUSICAL SYMBOL FTHORA ARCHAIONa DEYTEROU ICHOUxDIATONIKI DIcKEcNANAdI ANOdKATOhPAcZO",
  "BYZANTINE MUSICAL SYMBOL FTHORA ENARMONIOS ANTIFONIAuI YFESIS TETARTIMORION",
  "BYZANTINE MUSICAL SYMBOL FTHORA MALAKON CHROMA DIFONIASiMONOFONIASzNAOS ICHOSjENANO",
  "BYZANTINE MUSICAL SYMBOL FTHORA SKLIRON CHROMA SYNAFIgVASISmDIATONON DI",
  "BYZANTINE MUSICAL SYMBOL GENIKI DIESISgYFESISmORGON ARCHAIONiNEO ANOdKATO",
  "BYZANTINE MUSICAL SYMBOL GORGON PARESTIGMENON ARISTERAiDEXIAvSYNTHETONlTHMIKON N APLOUN",
  "BYZANTINE MUSICAL SYMBOL GORTHMIKON N DIPLOUNtRONTHISMATAmICHADINgMIDIARGONhFONONeTHORAbON",
  "BYZANTINE MUSICAL SYMBOL ISAKIA TELOUS ICHIMATOSvON ARCHAIONiNEOiKATAVA TROMIKONjSMAgHISTI",
  "BYZANTINE MUSICAL SYMBOL KENTIMA ARCHAIONiNEO ANOdKATOeMESOjTAa ARCHAIONiNEO ANOdKATOeMESO",
  "BYZANTINE MUSICAL SYMBOL KLASMAa ANOdKATOkONTEVMAa ALLOlRONISfUFISMAhRATIMA ALLOdRCHAIONiNEO",
  "BYZANTINE MUSICAL SYMBOL KRATIMATAdOKOUFISMAiYPORROONnEMASTIhYLISMAhLEIMMA DYO CHRONON",
  "BYZANTINE MUSICAL SYMBOL LEIMMA ENOS CHRONOUmIMISEOS CHRONOUpTESSARON CHRONONpRION CHRONONsMOI",
  "BYZANTINE MUSICAL SYMBOL LYGISMAhMARTYRIA ALLI DEYTEROS ICHOSoPROTOS ICHOSrDEYTEROS ICHOS",
  "BYZANTINE MUSICAL SYMBOL MARTYRIA LEGETOS ICHOSnPLAGIOS ICHOSfTETARTOS ICHOSvROTOS ICHOS",
  "BYZANTINE MUSICAL SYMBOL MARTYRIA PROTOVARYS ICHOSqTETARTOS ICHOSfLEGETOS ICHOSvRIFONIAS",
  "BYZANTINE MUSICAL SYMBOL MARTYRIA TRITOS ICHOSmVARYS ICHOStIKRON ISONlNANAeOLIGON ARCHAIONiNEO",
  "BYZANTINE MUSICAL SYMBOL OMALONfXEIA DIPLIfEKFONITIKONlNEOeI ARCHAIONoYRANISMA ARCHAIONiNEO",
  "BYZANTINE MUSICAL SYMBOL PARAKALESMA ARCHAIONiNEOkLITIKIa ARCHAIONiNEOmICHONhELASTONa NEO",
  "BYZANTINE MUSICAL SYMBOL PERISPOMENIjTASMAcTIbOKOUFISMAoIASMA ARCHAIONiNEOjSIFISTOLYGISMAhN",
  "BYZANTINE MUSICAL SYMBOL PSIFISTON NEOfPARAKALESMAlSYNAGMAmLIbONgRAPISMAgEVMAfSAXIMATAhEISMA",
  "BYZANTINE MUSICAL SYMBOL SEISMA NEOjIMANSIS ARSEOSa DISIMOUhTETRASIMOUjRISIMOUpTHESEOS",
  "BYZANTINE MUSICAL SYMBOL SIMANSIS THESEOS DISIMOUhTETRASIMOUjRISIMOUyTAVROSa APODEXIAoIGMA",
  "BYZANTINE MUSICAL SYMBOL STRAGGISMATAlYNAGMA ARCHAIONiMETA STAVROUmNEOiEVMAfRMAaTIKIjTELEIA",
  "BYZANTINE MUSICAL SYMBOL TESSERAfTRAPLIhHEMAa APLOUNhTISMOS ESOcXOmS KAI APOTHESoITAeINAGMA",
  "BYZANTINE MUSICAL SYMBOL TRIAbGORGONgPLIeOMIKOLYGISMAhN ALLOdRCHAIONiNEOfPARAKALESMAkSIFISTON",
  "BYZANTINE MUSICAL SYMBOL TROMIKOSYNAGMAoVAREIA DIPLIfEKFONITIKONlNEOeI ARCHAIONoTHY",
  "BYZANTINE MUSICAL SYMBOL XIRON KLASMAmYFEN ANOdKATOgSIS APLI DYO DODEKATA",
  "BYZANTINE MUSICAL SYMBOL YFESIS DIGRAMMOS EX DODEKATAvMONOGRAMMOS TESSERA DODEKATA",
  "BYZANTINE MUSICAL SYMBOL YFESIS TRIGRAMMOS OKTO DODEKATAvTIMORIONrPOKRISISa DIPLImRROIfSILI",
  "CACTUSeDA UNAfUCEUSgLENDARfL ME HANDkMERAa WITH FLASHoPINGfNaADIAN SYLLABICS AaAaIbYcIaVILIK B",
  "CANADIAN SYLLABICS ANbTHAPASCAN MbSlYcBEAVER DENE LbRmIBLE-CREE YlLACKFOOT AbEbIbKAbEbIbOcNAbE",
  "CANADIAN SYLLABICS BLACKFOOT NIbOcObSbWaAbEbIbOmCaAaAaIcRRIER CHAbEaEcIbObUdDEEbNE GEEfTAL ShI",
  "CANADIAN SYLLABICS CARRIER DLAbEaEcIbObUcZAbEaEcIbObUdEEcGAaAcEaEcHAbEaEcIbObUcIbObUbWAbUdHaEE",
  "CANADIAN SYLLABICS CARRIER HIbWAbEaEcIbObUdIaNITIAL ZjJAbEaEcIbJAbEaEcIbObUcObUbWAdKHAbEaEcIbO",
  "CANADIAN SYLLABICS CARRIER KHUcKaAbEaEcIbObUdLAbEaEcHAbEaEcIbObUcIbObUcMAbEaEcIbObUcNAbEaEcGbI",
  "CANADIAN SYLLABICS CARRIER NObUcPaAbEaEcIbObUcRAbEaEcIbObUcSAbEaEcHaAbEaEcIbObUcIbObUcTHAbEaE",
  "CANADIAN SYLLABICS CARRIER THIbObUcLAbEaEcHAbEaEcIbObUcIbObUcSAbEaEcIbObUcTAbEaEcIbObSAbEaEcI",
  "CANADIAN SYLLABICS CARRIER TTSObUcUdWAbEaEcIbObUcYAbEaEcIbObUcZaAbEaEcIbObUjEbHI SIGNhIaIcOaO",
  "CANADIAN SYLLABICS CWAaAcEbIaIcOaOeEaASTERN WiNcFaAaAaIdEbIaIbNAL ACUTEfBOTTOM HALF RING",
  "CANADIAN SYLLABICS FINAL DOUBLE ACUTEfSHORT VERTICAL STROKES",
  "CANADIAN SYLLABICS FINAL DOWN TACKjGRAVEfMIDDLE DOTkPLUSeRAISED DOTjIGHT HALF RINGnNG",
  "CANADIAN SYLLABICS FINAL SHORT HORIZONTAL STROKEwMALL RINGkTOP HALF RINGsOaOcULL STOPiWAA",
  "CANADIAN SYLLABICS GLOTTAL STOPmHKbYPHENgIaIbNcKaAaAaIcYcEbIaIcOaOcWaAaAbYcEbIaIcOaOeLaAaAaIcY",
  "CANADIAN SYLLABICS LEbHaAaAcIaIcOaOdIaIcOaOcWAaAcEbIaIcOaOeMaAaAaIcYcEaDIAL LbRhHbIaIcOaO",
  "CANADIAN SYLLABICS MOOSE-CREE SKmWAaAcEbIaIcOaOeNa-CREE THEbIaIkAaAaIcSKAPI CWAAeKWAAeMWAA",
  "CANADIAN SYLLABICS NASKAPI NWAAeS-WcCWAdKWaAdPWAdTWAdWAAeTWAAeWAAcOOdYWAAkTTILIK HAaAcIaIcOaO",
  "CANADIAN SYLLABICS NATTILIK SHRAaAcIaIcOaOmYcEbGaAaAaIcIcIaIcOaOdHbIaIcNGaAaAcIaIcOaOeOaObY",
  "CANADIAN SYLLABICS NUNAVIK HaAaAcEbIaIcOaOgUT HiWAaAcEbIaIcOaOeOaJIBWAY CbKbMbNaWIaIcOaOePbSaH",
  "CANADIAN SYLLABICS OJIBWAY TiNbObYcPaAaAaIcYcEbIaIcOaObYcWAaAcEbIaIcOaObYeQaAaAaIcIcIaIcOaOdR",
  "CANADIAN SYLLABICS R-CREE REbWEjAaAaIcYcEbIaIcOaOcWAaAcEEcIaIcOaOeSaAaAaIcYaISI HAbEbIbOaOdJI",
  "CANADIAN SYLLABICS SAYISI JUaUdMbSHAbEbIbOaOcWEeTHcYIiEbHaAaAbYcEbIaIcOaObYcWAaAcEbIaIcOaObYeI",
  "CANADIAN SYLLABICS SIIcOaObUTH-SLAVEY KAHcEHcIHcOHoYcPAbEbIbOcWaAaAcEbIaIcOaOeTaAaAaIcYcEbH",
  "CANADIAN SYLLABICS TH-CREE THaAaAcEbIaIcOaOkAaAcEbIaIcOaOcWAaAcEdIaIcLHAbEbIbOaOcWEeOaOcTAbEbH",
  "CANADIAN SYLLABICS TTHAaAcEbIbOaOcWEdIbOcWAaAcEbIaIcOaOdYAbEbIbOdWAaAbYcEaST-CREE CWAaAcEbIaI",
  "CANADIAN SYLLABICS WEST-CREE CWOaOeFWAAeKWAaAcEbIaIcOaOeLaAaAcEbOaOcWAaAcEbIaIcOaOeMaWAaAcEbI",
  "CANADIAN SYLLABICS WEST-CREE MWIIcOaOeNWAaAcEdPaWAaAcEbIaIcOaOeRaAbEbIbObWAAeSHWAaAcEbIaIcOaO",
  "CANADIAN SYLLABICS WEST-CREE SWAaAcEbIaIcOaOeTHWAAeWAaAcEbIaIcOaOeWAaAcEbIaIcOaOdYaWAaAcEbIaI",
  "CANADIAN SYLLABICS WEST-CREE YWOaOkERN WiIaIcOaOaDS-CREE FINAL THiTHaAbEbIbObWAaAcEEcIaIcOaOqY",
  "CANADIAN SYLLABICS Y-CREE COOdKOOdLOOdMOOdNOOdOOcPOOcWAAeSOOdTOOdWbYOOjAaAaIcYcEbIaIcOaObYcWA",
  "CANADIAN SYLLABICS YWAAcEbIaIcOaOuCELa CHARACTERjTAGeLATION XjRdDLEcYcNED FOODiOEdPITULUM",
  "CAPRICORNhR SLIDINGiD FILE BOXiINDEXa DIVIDERSqE OFdTa INSERTION POINTsIAN LETTER Aa2cBbC-18",
  "CARIAN LETTER C-39eDa2cEa2cGa2cIaIcKa2cLaDa2dMaBa2b3b4dNaDbGbNcObPa2cQbRaRcSaHa2cSbTa2dTaTa2dU",
  "CARIAN LETTER UUaUa2b3bUeXmONbUSEL HORSElP STREAMERjENTRY SAWkRIAGE RETURNlOTeSTLEeTa FACE",
  "CAT FACE WITH TEARS OF JOYmWRY SMILEvUCASIAN ALBANIAN CITATION MARKnLETTER ALTcORdBETdCARbYN",
  "CAUCASIAN ALBANIAN LETTER CHAaTcIbOYdYAWbYeDATcYANdZAYcYAYfEBbYNdFAMdGHEYSeIMdHEYTeINYAdRBcWN",
  "CAUCASIAN ALBANIAN LETTER JAYNdHOXeKARcIWdLANcYITeMAQdNOWCeONcPENcIWReQARbYdRATdSEYKdHAaKcOY",
  "CAUCASIAN ALBANIAN LETTER TAScIWRdYAYeVEYZeXEYNeYAYDdOWDeZARLdHAbIL",
  "CAUTION SIGNlCHcEDI SIGNfLLAfLTIC CROSSkNT SIGNfRE LINE SYMBOLmLINE LOW LINEiOVERLINErRESeGJ",
  "CHAINScRcKMA AU MARKhDANDAeIGIT EIGHTfFIVEdOUReNINEeONEdSEVENeIXdTHREEeWOdZEROjOUBLE DANDA",
  "CHAKMA LETTER AAcBAAcHAAeCAAcHAAeDAAcDAAcHAAeHAAeEbGAAcHAAeHAAdIbJAAcHAAeKAAcHAAeLAAcHAAeMAA",
  "CHAKMA LETTER NAAcGAAdNAAdYAAePAAcHAAeRAAdSAAdTAAcHAAdTAAcHAAfUbVAAdWAAdYAAcYAAlMAAYYAAhO MARK",
  "CHAKMA QUESTION MARKnSECTION MARKlIGN ANUSVARAiCANDRABINDUlVISARGAmVIRAMAfOWEL SIGN AaAbIbUcE",
  "CHAKMA VOWEL SIGN EIcIaIcOaIcUaUrM CONSONANT SIGN FINAL HbMbNGiLAcRAcWAcYArDIGIT EIGHTfFIVE",
  "CHAM DIGIT FOUReNINEeONEdSEVENeIXdTHREEeWOdZEROkLETTER AaIcBAbBAcHAdCHAbHAeDAbDAcHAdEbFINAL CH",
  "CHAM LETTER FINAL GbKbLbNaGcPbRbSScTbYhGAbHAdHAcIbJAbHAdKAbHAdLAcMAbUEdNAbGAbUEdHAbJAcUEdUEdO",
  "CHAM LETTER PAbHAcPAdRAcSAbSAdTAbHAdUbVAcYAjPUNCTUATION DANDAeOUBLE DANDAmSPIRALgTRIPLE DANDA",
  "CHAM VOWEL SIGN AAbIbUcEIcIaIcOaEcUaEpRACTER TABULATIONa SETdWITH JUSTIFICATION",
  "CHARACTER TIEjT WITH DOWNWARDS TRENDpUPWARDS TRENDa AND YEN SIGN",
  "CHECK MARKfER BOARDa FILLpERING MEGAPHONEoSE WEDGEjQUERED FLAGlROKEE LETTER AbDAbEbIbLAcObUbV",
  "CHEROKEE LETTER EbGAbEbIbObUbVcHAbEbIbNAcObUbVcIbKAcLAbEbIbObUbVcMAbEbIbObUbVcNAaHcEbIbObUbVcO",
  "CHEROKEE LETTER QUAbEbIbObUbVdSaAbEbIbObUbVcTAbEbIbLAbEbIbObUbVcSAbEbIbObUbVdUbVbWAbEbIbObUbV",
  "CHEROKEE LETTER YAbEbIbObUbVjSMALL LETTER AbDAbEbIbLAcObUbVcEbGAbEbIbObUbVcHAbEbIbNAcObUbVcI",
  "CHEROKEE SMALL LETTER KAcLAbEbIbObUbVcMAbEbIbObUbVcNAaHcEbIbObUbVcObQUAbEbIbObUbVdSaAbEbIbObU",
  "CHEROKEE SMALL LETTER SVcTAbEbIbLAbEbIbObUbVcSAbEbIbObUbVdUbVbWAbEbIbObUbVcYAbEbIbObUbVuRIES",
  "CHERRY BLOSSOMlSTNUTgI RHOeCKENeLDaREN CROSSINGoPMUNKfRONeOCOLATE BARkPSTICKS",
  "CHORASMIAN LETTER ALEPHeYINeBETHeCURLED WAWkDALETHgGIMELfHEaTHeKAPHeLAMEDHgMEMdNUNdPEcRESH",
  "CHORASMIAN LETTER SAMEKHfHINdMALL ALEPHlTAWdWAWdYODHeZAYINmNUMBER FOUReONEa HUNDREDlTENcHREE",
  "CHORASMIAN NUMBER TWENTYeOtRISTMAS TREEmURCHfINEMA",
  "CIRCLE DIVIDED BY HORIZONTAL BAR AND TOP HALF DIVIDED BY VERTICAL BAR",
  "CIRCLE WITH ALL BUT UPPER LEFT QUADRANT BLACK",
  "CIRCLE WITH HORIZONTAL BARoLEFT HALF BLACKoOWER HALF BLACKqRIGHT HALF BLACK",
  "CIRCLE WITH SMALL CIRCLE TO THE RIGHTyUPERIMPOSED XoTWO HORIZONTAL STROKES TO THE RIGHT",
  "CIRCLE WITH UPPER HALF BLACKkRIGHT QUADRANT BLACK",
  "CIRCLE WITH VERTICAL FILLtD ANTICLOCKWISE ARROWg-ROTATED DIVISION SIGN",
  "CIRCLED ASTERISK OPERATORrBOLD XfULLETgC WITH OVERLAID BACKSLASHyCbDbROSS FORMEE",
  "CIRCLED CROSS FORMEE WITH FOUR DOTSjTWO DOTSuPOMMEEhING LANESoDASHdIGIT EIGHTfFIVEdOUReNINE",
  "CIRCLED DIGIT ONEdSEVENeIXdTHREEeWOdZEROiVISION SIGNdLASHnOLLAR SIGN WITH OVERLAID BACKSLASH",
  "CIRCLED DOT OPERATORmEQUALSgGREATER-THANmHANGUL CHIEUCHa AiIEUCa AhHIEUHa AhIEUNGa AbUhKHIEUKH",
  "CIRCLED HANGUL KHIEUKH AiIYEOKa AiMIEUMa AhNIEUNa AhPHIEUPHa AiIEUPa AhRIEULa AhSIOSa A",
  "CIRCLED HANGUL THIEUTHa AiIKEUTa AoEAVY WHITE RIGHTWARDS ARROW",
  "CIRCLED HORIZONTAL BAR WITH NOTCHyUMAN FIGUREmIDEOGRAPH ACCEPTfDVANTAGEiLLIANCEhTTENTION",
  "CIRCLED IDEOGRAPH CENTREfONGRATULATIONmPYcRRECThEARTHeIGHTeNTERPRISEjXCELLENTjFEMALEfINANCIAL",
  "CIRCLED IDEOGRAPH FIREcVEdOUReHAVEdIGHeITEMeKINDERGARTENlOTOeLABOReEFTdOWdMALEdEDICINEgTALeOON",
  "CIRCLED IDEOGRAPH NAMEdIGHTdNEeONEdPRINTfQUESTIONiRELIGIONgSOURCEfTdIGHTfSCHOOLfECRETeVENeIX",
  "CIRCLED IDEOGRAPH SOCIETYgPECIALgTOCKdUDYeUITABLEgNbPERVISEjTENcHREEeWOdWATEReOOD",
  "CIRCLED INFORMATION SOURCErTALIC LATIN CAPITAL LETTER CbR",
  "CIRCLED KATAKANA AbEbHAbEbIbObUcIbKAbEbIbObUcMAbEbIbObUcNAbEbIbObUcObRAbEbIbObUcSAbEbIbObUcTA",
  "CIRCLED KATAKANA TEbIbObUcUbWAbEbIbOcYAbObUkOREAN CHARACTER CHAMKOgJUEUI",
  "CIRCLED LATIN CAPITAL LETTER AbBbCbDbEbFbGbHbIbJbKbLbMbNbObPbQbRbSbTbUbVbWbXbYbZ",
  "CIRCLED LATIN SMALL LETTER AbBbCbDbEbFbGbHbIbJbKbLbMbNbObPbQbRbSbTbUbVbWbXbYbZtESS-THANjMINUS",
  "CIRCLED MULTIPLICATION SIGN WITH CIRCUMFLEX ACCENT",
  "CIRCLED NUMBER EIGHTEENdY ON BLACK SQUAREvLEVENgFIFTEENdYa ON BLACK SQUAREuORTYa EIGHTfFIVE",
  "CIRCLED NUMBER FORTY FOUReNINEeON BLACK SQUAREnEdSEVENeIXdTHREEeWOhURTEENiNINETEENiSEVENTEEN",
  "CIRCLED NUMBER SEVENTY ON BLACK SQUAREwIXTEENdY ON BLACK SQUAREvTENa ON BLACK SQUAREsHIRTEENdY",
  "CIRCLED NUMBER THIRTY EIGHTfFIVEdOUReNINEeON BLACK SQUAREnEdSEVENeIXdTHREEeWOjWELVEdNTYa EIGHT",
  "CIRCLED NUMBER TWENTY FIVEdOUReNINEeON BLACK SQUAREnEdSEVENeIXdTHREEeWO",
  "CIRCLED OPEN CENTRE EIGHT POINTED STAR",
  "CIRCLED PARALLELhERPENDICULARmLUSdOSTAL MARKlREVERSE SOLIDUSoING OPERATORnSQUAREgTIMESeRIANGLE",
  "CIRCLED TRIANGLE DOWNnVERTICAL BARmWHITE BULLETgSTARjZcXbZERO WITH SLASHtULATION FUNCTION",
  "CIRCUMFLEX ACCENTmS TENTjTYSCAPEa AT DUSKqJK COMPATIBILITY IDEOGRAPH-2F800b1b2b3b4b5b6b7b8b9bA",
  "CJK COMPATIBILITY IDEOGRAPH-2F80BbCbDbEbFc10b1b2b3b4b5b6b7b8b9bAbBbCbDbEbFc20b1b2b3b4b5b6b7b8",
  "CJK COMPATIBILITY IDEOGRAPH-2F829bAbBbCbDbEbFc30b1b2b3b4b5b6b7b8b9bAbBbCbDbEbFc40b1b2b3b4b5b6",
  "CJK COMPATIBILITY IDEOGRAPH-2F847b8b9bAbBbCbDbEbFc50b1b2b3b4b5b6b7b8b9bAbBbCbDbEbFc60b1b2b3b4",
  "CJK COMPATIBILITY IDEOGRAPH-2F865b6b7b8b9bAbBbCbDbEbFc70b1b2b3b4b5b6b7b8b9bAbBbCbDbEbFc80b1b2",
  "CJK COMPATIBILITY IDEOGRAPH-2F883b4b5b6b7b8b9bAbBbCbDbEbFc90b1b2b3b4b5b6b7b8b9bAbBbCbDbEbFcA0",
  "CJK COMPATIBILITY IDEOGRAPH-2F8A1b2b3b4b5b6b7b8b9bAbBbCbDbEbFcB0b1b2b3b4b5b6b7b8b9bAbBbCbDbEbF",
  "CJK COMPATIBILITY IDEOGRAPH-2F8C0b1b2b3b4b5b6b7b8b9bAbBbCbDbEbFcD0b1b2b3b4b5b6b7b8b9bAbBbCbDbE",
  "CJK COMPATIBILITY IDEOGRAPH-2F8DFcE0b1b2b3b4b5b6b7b8b9bAbBbCbDbEbFcF0b1b2b3b4b5b6b7b8b9bAbBbC",
  "CJK COMPATIBILITY IDEOGRAPH-2F8FDbEbFd900b1b2b3b4b5b6b7b8b9bAbBbCbDbEbFc10b1b2b3b4b5b6b7b8b9bA",
  "CJK COMPATIBILITY IDEOGRAPH-2F91BbCbDbEbFc20b1b2b3b4b5b6b7b8b9bAbBbCbDbEbFc30b1b2b3b4b5b6b7b8",
  "CJK COMPATIBILITY IDEOGRAPH-2F939bAbBbCbDbEbFc40b1b2b3b4b5b6b7b8b9bAbBbCbDbEbFc50b1b2b3b4b5b6",
  "CJK COMPATIBILITY IDEOGRAPH-2F957b8b9bAbBbCbDbEbFc60b1b2b3b4b5b6b7b8b9bAbBbCbDbEbFc70b1b2b3b4",
  "CJK COMPATIBILITY IDEOGRAPH-2F975b6b7b8b9bAbBbCbDbEbFc80b1b2b3b4b5b6b7b8b9bAbBbCbDbEbFc90b1b2",
  "CJK COMPATIBILITY IDEOGRAPH-2F993b4b5b6b7b8b9bAbBbCbDbEbFcA0b1b2b3b4b5b6b7b8b9bAbBbCbDbEbFcB0",
  "CJK COMPATIBILITY IDEOGRAPH-2F9B1b2b3b4b5b6b7b8b9bAbBbCbDbEbFcC0b1b2b3b4b5b6b7b8b9bAbBbCbDbEbF",
  "CJK COMPATIBILITY IDEOGRAPH-2F9D0b1b2b3b4b5b6b7b8b9bAbBbCbDbEbFcE0b1b2b3b4b5b6b7b8b9bAbBbCbDbE",
  "CJK COMPATIBILITY IDEOGRAPH-2F9EFcF0b1b2b3b4b5b6b7b8b9bAbBbCbDbEbFdA00b1b2b3b4b5b6b7b8b9bAbBbC",
  "CJK COMPATIBILITY IDEOGRAPH-2FA0DbEbFc10b1b2b3b4b5b6b7b8b9bAbBbCbDfF900b1b2b3b4b5b6b7b8b9bAbB",
  "CJK COMPATIBILITY IDEOGRAPH-F90CbDbEbFc10b1b2b3b4b5b6b7b8b9bAbBbCbDbEbFc20b1b2b3b4b5b6b7b8b9bA",
  "CJK COMPATIBILITY IDEOGRAPH-F92BbCbDbEbFc30b1b2b3b4b5b6b7b8b9bAbBbCbDbEbFc40b1b2b3b4b5b6b7b8b9",
  "CJK COMPATIBILITY IDEOGRAPH-F94AbBbCbDbEbFc50b1b2b3b4b5b6b7b8b9bAbBbCbDbEbFc60b1b2b3b4b5b6b7b8",
  "CJK COMPATIBILITY IDEOGRAPH-F969bAbBbCbDbEbFc70b1b2b3b4b5b6b7b8b9bAbBbCbDbEbFc80b1b2b3b4b5b6b7",
  "CJK COMPATIBILITY IDEOGRAPH-F988b9bAbBbCbDbEbFc90b1b2b3b4b5b6b7b8b9bAbBbCbDbEbFcA0b1b2b3b4b5b6",
  "CJK COMPATIBILITY IDEOGRAPH-F9A7b8b9bAbBbCbDbEbFcB0b1b2b3b4b5b6b7b8b9bAbBbCbDbEbFcC0b1b2b3b4b5",
  "CJK COMPATIBILITY IDEOGRAPH-F9C6b7b8b9bAbBbCbDbEbFcD0b1b2b3b4b5b6b7b8b9bAbBbCbDbEbFcE0b1b2b3b4",
  "CJK COMPATIBILITY IDEOGRAPH-F9E5b6b7b8b9bAbBbCbDbEbFcF0b1b2b3b4b5b6b7b8b9bAbBbCbDbEbFdA00b1b2",
  "CJK COMPATIBILITY IDEOGRAPH-FA03b4b5b6b7b8b9bAbBbCbDbEbFc10b1b2b3b4b5b6b7b8b9bAbBbCbDbEbFc20b1",
  "CJK COMPATIBILITY IDEOGRAPH-FA22b3b4b5b6b7b8b9bAbBbCbDbEbFc30b1b2b3b4b5b6b7b8b9bAbBbCbDbEbFc40",
  "CJK COMPATIBILITY IDEOGRAPH-FA41b2b3b4b5b6b7b8b9bAbBbCbDbEbFc50b1b2b3b4b5b6b7b8b9bAbBbCbDbEbF",
  "CJK COMPATIBILITY IDEOGRAPH-FA60b1b2b3b4b5b6b7b8b9bAbBbCbDc70b1b2b3b4b5b6b7b8b9bAbBbCbDbEbFc80",
  "CJK COMPATIBILITY IDEOGRAPH-FA81b2b3b4b5b6b7b8b9bAbBbCbDbEbFc90b1b2b3b4b5b6b7b8b9bAbBbCbDbEbF",
  "CJK COMPATIBILITY IDEOGRAPH-FAA0b1b2b3b4b5b6b7b8b9bAbBbCbDbEbFcB0b1b2b3b4b5b6b7b8b9bAbBbCbDbE",
  "CJK COMPATIBILITY IDEOGRAPH-FABFcC0b1b2b3b4b5b6b7b8b9bAbBbCbDbEbFcD0b1b2b3b4b5b6b7b8b9",
  "CJK RADICAL BAMBOOfLUEdOLT OF CLOTHlNEcXcRUSH ONEdTWOjC-SIMPLIFIED BIRDeCARTeDRAGONgEATcVEN",
  "CJK RADICAL C-SIMPLIFIED FISHdLYcROGeGATEdOLDeHORSEfLEAFdONGeSALTdEEcHELLeILKdPEECH",
  "CJK RADICAL C-SIMPLIFIED TANNED LEATHERnOOTHeURTLEgWINDqHOKEeITYcVILIANhLIFFdOTHESgOWdDEATH",
  "CJK RADICAL DIVINATIONjOGdEAT ONEdTHREEeWOgWEcYEdFIREdOOTeGHOSTeRASS ONEdTHREEeWOjHANDdEAD",
  "CJK RADICAL HEART ONEdTWOiORNeJ-SIMPLIFIED DRAGONgEVENeTOOTHeURTLEsADEeKNIFE ONEdTWOjLAME FOUR",
  "CJK RADICAL LAME ONEdTHREEeWOhONG ONEdTWOiMEATcSHdOONcRTAReTHEReUND ONEdTWOjNET FOUReONEdTHREE",
  "CJK RADICAL NET TWOhOLDdPAW ONEdTWOgERSONgRAINcMbPcEPEATgSEALcCOND ONEdTHREEeWOjHEEPeILK",
  "CJK RADICAL SIMPLIFIED HALF TREE TRUNKoORNeWALKdHEATfYELLOWqMALL ONEdTWOiNAKEdOUT ONEdTWO",
  "CJK RADICAL SPIRIT ONEdTWOjUNdTABLEeHREADfIGEReURTLEgWALK ONEdTWOgTER ONEdTWOiEST ONEdTWO",
  "CJK STROKE BXGdDbHaGbPaWGdXWGdZaGbTbWaGcZaPbZaGfNbPaDbGbZcQbSaGbPbTbWaGbZcZaWGcZdTaNcWGcXG",
  "CLAMSHELL MOBILE PHONEtPPER BOARDiING HANDS SIGNqSSICAL BUILDINGqEAR SCREEN SYMBOL",
  "CLINKING BEER MUGSjGLASSESnPBOARDhOCK FACE EIGHT OCLOCKh-THIRTYlLEVEN OCLOCKh-THIRTY",
  "CLOCK FACE FIVE OCLOCKh-THIRTYkOUR OCLOCKh-THIRTYlNINE OCLOCKh-THIRTYlONE OCLOCKh-THIRTY",
  "CLOCK FACE SEVEN OCLOCKh-THIRTYlIX OCLOCKh-THIRTYkTEN OCLOCKh-THIRTYjHREE OCLOCKh-THIRTY",
  "CLOCK FACE TWELVE OCLOCKh-THIRTYlO OCLOCKh-THIRTYqWISE CLOSED CIRCLE ARROWsONTOUR INTEGRAL",
  "CLOCKWISE DOWNWARDS AND UPWARDS OPEN CIRCLE ARROWS",
  "CLOCKWISE GAPPED CIRCLE ARROWtINTEGRALiOPEN CIRCLE ARROWrRIGHT AND LEFT SEMICIRCLE ARROWS",
  "CLOCKWISE RIGHTWARDS AND LEFTWARDS OPEN CIRCLE ARROWSa WITH CIRCLED ONE OVERLAY",
  "CLOCKWISE TOP SEMICIRCLE ARROWtRIANGLE-HEADED OPEN CIRCLE ARROW",
  "CLOSE UPdD BOOKeINTERSECTION WITH SERIFSyLOCK WITH KEYnMAILBOX WITH LOWERED FLAGmRAISED FLAG",
  "CLOSED SUBSETa OR EQUAL TOqPERSETa OR EQUAL TOuUMBRELLAhNION WITH SERIFSa AND SMASH PRODUCT",
  "CLOUDa WITH LIGHTNINGjRAINeSNOWeTORNADOpWN FACEjOATcCKROACHfTAIL GLASSlONUTfFFINeIN",
  "COLLISION SYMBOLnONa EQUALSgSIGNiMBINING ACUTE ACCENTa BELOWmTONE MARKk-GRAVE-ACUTElMACRON",
  "COMBINING ALMOST EQUAL TO ABOVEfBELOWuNNUITY SYMBOLmTICLOCKWISE ARROW ABOVElRING OVERLAY",
  "COMBINING ASTERISK ABOVEfBELOWoBINDU BELOWkREVEa BELOWg-MACRONkIDGE ABOVEfBELOWmCANDRABINDU",
  "COMBINING CARONa BELOWkEDILLAgIRCUMFLEX ACCENTa BELOWwLOCKWISE ARROW ABOVElRING OVERLAY",
  "COMBINING COMMA ABOVEa RIGHTlBELOWjNJOINING MACRONa BELOWwYRILLIC DASIA PNEUMATA",
  "COMBINING CYRILLIC HUNDRED MILLIONS SIGNnTHOUSANDS SIGNwKAVYKAgLETTER AbBEbIG YUShCHEdDEbJERV",
  "COMBINING CYRILLIC LETTER EFbLbMbNbRbSa-TEfFITAeGHEdHAaRD SIGNjIaEbOTIFIED AbBIG YUShEkKA",
  "COMBINING CYRILLIC LETTER LITTLE YUSkMONOGRAPH UKmOaMEGAfPEcSHAbCHAeOFT SIGNjTEbSEdU",
  "COMBINING CYRILLIC LETTER UKRAINIAN IEmVEcYATcERUdIbUcZEbHEkMILLIONS SIGNnPALATALIZATIONmYEROK",
  "COMBINING CYRILLIC POKRYTIEhSILI PNEUMATAoTEN MILLIONS SIGNqHOUSAND MILLIONS SIGNvITLO",
  "COMBINING CYRILLIC TITLO LEFT HALFjRIGHT HALFqVZMEToDELETION MARKlVANAGARI DIGIT EIGHTfFIVE",
  "COMBINING DEVANAGARI DIGIT FOUReNINEeONEdSEVENeIXdTHREEeWOdZEROkLETTER AbKAcNAcPAcRAcUbVI",
  "COMBINING DEVANAGARI SIGN AVAGRAHAxIAERESISa BELOWg-RINGnOT ABOVEa LEFTeRIGHTlBELOWa LEFT",
  "COMBINING DOTTED ACUTE ACCENTmGRAVE ACCENTrUBLE ACUTE ACCENTmBREVEa BELOWlCIRCUMFLEX ABOVE",
  "COMBINING DOUBLE GRAVE ACCENTmINVERTED BREVEa BELOWuLOW LINEiMACRONa BELOWmOPEN MARK BELOW",
  "COMBINING DOUBLE OVERLINEiPARENTHESES ABOVEqLUS SIGN ABOVEfBELOWpRIGHTWARDS ARROW BELOW",
  "COMBINING DOUBLE RING BELOWkTILDEa LEFT HALFjRIGHT HALFqVERTICAL LINE ABOVEfBELOW",
  "COMBINING DOUBLE VERTICAL STROKE OVERLAYyD CIRCUMFLEX ACCENTxWN TACK BELOWlWARDS ARROW",
  "COMBINING ENCLOSING CIRCLEa BACKSLASHqDIAMONDhKEYCAPgSCREENfQUAREgUPWARD POINTING TRIANGLE",
  "COMBINING EQUALS SIGN BELOWrFERMATAgOUR DOTS ABOVEpGLAGOLITIC LETTER AZUdBIG YUSgUKYeCHRIVI",
  "COMBINING GLAGOLITIC LETTER DJERVIfOBROfFITAdRITUfGLAGOLIhHERUeIaNITIAL IZHElOTATED BIG YUS",
  "COMBINING GLAGOLITIC LETTER IOTATED SMALL YUSqZHEeKAKOeLJUDIJEhMYSLITEhNASHIfONUdPOKOJIgRITSI",
  "COMBINING GLAGOLITIC LETTER SHAbTAdLOVOeMALL YUSjTSIcVRIDOgUKUdVEDEeYATIdERIbUcSTUeObUcZEMLJA",
  "COMBINING GLAGOLITIC LETTER ZHIVETEyRANTHA DIGIT FIVEdOUReONEdSIXdTHREEeWOdZEROkLETTER AbKAcNA",
  "COMBINING GRANTHA LETTER PAcVIoPHEME JOINERmVE ACCENTa BELOWmTONE MARKk-ACUTE-GRAVElMACRON",
  "COMBINING GREEK DIALYTIKA TONOSpKORONIShMUSICAL PENTASEMEjTETRASEMEiRISEMEpPERISPOMENI",
  "COMBINING GREEK YPOGEGRAMMENItHOMOTHETIC ABOVEoOK ABOVEiRNeINFINITYgVERTED BREVEa BELOW",
  "COMBINING INVERTED BRIDGE BELOWmDOUBLE ARCH ABOVEfBELOWzS BELOW",
  "COMBINING KATAKANA-HIRAGANA SEMI-VOICED SOUND MARKwVOICED SOUND MARK",
  "COMBINING KAVYKA ABOVE LEFTeRIGHTsLATIN LETTER SMALL CAPITAL GbLbMbNbRwSMALL LETTER A",
  "COMBINING LATIN SMALL LETTER A WITH DIAERESISpEbLPHAeObVcBaETAeCa CEDILLAjDbEaSHcTHdF",
  "COMBINING LATIN SMALL LETTER FLATTENED OPEN A ABOVEwGbHbIaNSULAR DbGbRbTjKbL",
  "COMBINING LATIN SMALL LETTER L WITH DOUBLE MIDDLE TILDEzONG SgMbNbOa WITH DIAERESIS",
  "COMBINING LATIN SMALL LETTER O WITH LIGHT CENTRALIZATION STROKE",
  "COMBINING LATIN SMALL LETTER PbRa BELOWfROTUNDAjSaCHWAfTaURNED W BELOWoUa WITH DIAERESIS",
  "COMBINING LATIN SMALL LETTER U WITH LIGHT CENTRALIZATION STROKE",
  "COMBINING LATIN SMALL LETTER VbWa BELOWhXbZtEFT ANGLE ABOVEfBELOWkRROW ABOVEfBELOWgHEAD ABOVE",
  "COMBINING LEFT ARROWHEAD BELOWpHALF RING ABOVEfBELOWnRPOON ABOVEnPARENTHESIS ABOVE LEFT",
  "COMBINING LEFT PARENTHESIS BELOW LEFTwRIGHT ARROW ABOVEfBELOWrTACK BELOWlWARDS ARROW OVERLAY",
  "COMBINING LEFTWARDS HARPOON WITH BARB DOWNWARDS",
  "COMBINING LIGATURE LEFT HALFa BELOWpRIGHT HALFa BELOWwHT CENTRALIZATION STROKE BELOW",
  "COMBINING LONG DOUBLE SOLIDUS OVERLAYwSOLIDUS OVERLAYoTROKE OVERLAYoVERTICAL LINE OVERLAY",
  "COMBINING LOW LINEiMACRONa BELOWfLEFT HALFa BELOWpRIGHT HALFa BELOWr-ACUTEfBREVEfGRAVE",
  "COMBINING MINUS SIGN BELOWqNOT TILDE ABOVEoUMBER SIGN ABOVErOGONEKa ABOVElLD PERMIC LETTER AN",
  "COMBINING OLD PERMIC LETTER DOIdNENOEfSIIdZATAvPEN MARK BELOWoVERLINEiPALATALIZED HOOK BELOW",
  "COMBINING PARENTHESES ABOVEfBELOWfOVERLAYsLUS SIGN ABOVEfBELOWpRETROFLEX HOOK BELOW",
  "COMBINING REVERSE SOLIDUS OVERLAYqD COMMA ABOVEtIGHT ARROW ABOVEfBELOWgHEAD ABOVE",
  "COMBINING RIGHT ARROWHEAD AND DOWN ARROWHEAD BELOWuUP ARROWHEAD BELOWwBELOWpHALF RING ABOVE",
  "COMBINING RIGHT HALF RING BELOWnRPOON ABOVEnPARENTHESIS ABOVE RIGHTlBELOW RIGHTxTACK BELOW",
  "COMBINING RIGHTWARDS HARPOON WITH BARB DOWNWARDS",
  "COMBINING RING ABOVEfBELOWfOVERLAYmSEAGULL BELOWmHORT SOLIDUS OVERLAYoTROKE OVERLAY",
  "COMBINING SHORT VERTICAL LINE OVERLAY",
  "COMBINING SNAKE BELOWkQUARE BELOWeRACKETS ABOVEuTRONG CENTRALIZATION STROKE BELOW",
  "COMBINING SUSPENSION MARKpTHREE DOTS ABOVEpILDEa BELOWfLEFT HALF BELOWpOVERLAY",
  "COMBINING TILDE RIGHT HALF BELOWvRIPLE ACUTE ACCENTmDOTdUNDERDOToURNED COMMA ABOVE",
  "COMBINING UP TACK ABOVEfBELOWlWARDS ARROW BELOWsR ABOVEhS ABOVEiVERTICAL LINE ABOVEfBELOW",
  "COMBINING VERTICAL TILDEoWIDE BRIDGE ABOVEmINVERTED BRIDGE BELOWyGGLY LINE BELOWrX ABOVEfBELOW",
  "COMBINING X-X BELOWjZIGZAG ABOVEfBELOWtETcMAbERCIAL ATcMINUS SIGNsPASSdLEMENTgOSITION SYMBOL",
  "COMPRESSIONjNFETTI BALLjOUNDED FACElUSED FACEkGRUENT WITH DOT ABOVEvICAL TAPERkJUNCTION",
  "CONSTRUCTION SIGNeWORKERqTAINS AS MEMBERgNORMAL SUBGROUPa OR EQUAL TO",
  "CONTAINS WITH LONG HORIZONTAL STROKEwOVERBARhVERTICAL BAR AT END OF HORIZONTAL STROKE",
  "CONTINUOUS UNDERLINE SYMBOLxOUR INTEGRALmROL KNOBSfSEQUENCE INTRODUCERyVENIENCE STORE",
  "COOKED RICEhIEbNGfPTIC CAPITAL LETTER AKHMIMIC KHEImLFAeBOHAIRIC KHEInCROSSED SHEI",
  "COPTIC CAPITAL LETTER CRYPTOGRAMMIC EIEdGANGIAgNIcSHEIsDALDAeEIcIALECT-P ALEFeHORIeKAPAeNImEIE",
  "COPTIC CAPITAL LETTER FEIcIcGAMMAdNGIAgHATEdORIeIAUDAfKAPAdHEIcIcSIdL-SHAPED HAkAULAfMIcNIcO",
  "COPTIC CAPITAL LETTER OLD COPTIC AINdDJAdESHdGANGIAgHAaTcEIcORIeOOUdSHEIcIMAmNUBIAN NGIcYI",
  "COPTIC CAPITAL LETTER OLD NUBIAN SHIMAfWAUnOUdPIbSIdROcSAMPIeHEIcIMAeIMAdOUdTAUcHETHEgUAcVIDA",
  "COPTIC CAPITAL LETTER ZATAsOMBINING NI ABOVEiSPIRITUS ASPERfLENISyEPACT DIGIT EIGHTfFIVEdOUR",
  "COPTIC EPACT DIGIT NINEeONEdSEVENeIXdTHREEeWOjNUMBER EIGHT HUNDREDiYgFIFTYdVE HUNDREDlORTY",
  "COPTIC EPACT NUMBER FOUR HUNDREDmNINE HUNDREDiTYgONE HUNDREDlSEVEN HUNDREDiTYgIX HUNDREDiTY",
  "COPTIC EPACT NUMBER TENcHIRTYeREE HUNDREDmWENTYeO HUNDREDsTHOUSANDS MARKuFRACTION ONE HALF",
  "COPTIC FULL STOPjMORPHOLOGICAL DIVIDERvOLD NUBIAN DIRECT QUESTION MARKuFULL STOP",
  "COPTIC OLD NUBIAN INDIRECT QUESTION MARKwVERSE DIVIDERySMALL LETTER AKHMIMIC KHEImLFA",
  "COPTIC SMALL LETTER BOHAIRIC KHEInCROSSED SHEIkYPTOGRAMMIC EIEdGANGIAgNIcSHEIsDALDAeEI",
  "COPTIC SMALL LETTER DIALECT-P ALEFeHORIeKAPAeNImEIEdFEIcIcGAMMAdNGIAgHATEdORIeIAUDAfKAPAdHEIcI",
  "COPTIC SMALL LETTER KSIdL-SHAPED HAkAULAfMIcNIcOaLD COPTIC AINdDJAdESHdGANGIAgHAaTcEIcORIeOOU",
  "COPTIC SMALL LETTER OLD COPTIC SHEIcIMAmNUBIAN NGIcYIdSHIMAfWAUnOUdPIbSIdROcSAMPIeHEIcIMAeIMA",
  "COPTIC SMALL LETTER SOUdTAUcHETHEgUAcVIDAeZATAqYMBOL KAIcHI ROgMI ROfPI ROfSHIMA SIMAjTAUROS",
  "COPTIC SYMBOL TAU ROrYLEFT SYMBOLlRIGHT SIGNmRALcNISH VERSE DIVIDERsRESPONDS TOmUCH AND LAMP",
  "COUNTERBOREeSINKgING ROD TENS DIGIT EIGHTfFIVEdOUReNINEeONEdSEVENeIXdTHREEeWOoUNIT DIGIT EIGHT",
  "COUNTING ROD UNIT DIGIT FIVEdOUReNINEeONEdSEVENeIXdTHREEeWOyPLE WITH HEARTpWa FACEhRaAB",
  "CREDIT CARDiSCENT MOONlICKETa BAT AND BALLsOCODILEgISSANTgSS MARKeOF JERUSALEMjLORRAINE",
  "CROSS PATTY WITH LEFT CROSSBARnRIGHT CROSSBARyOMMEEa WITH HALF-CIRCLE BELOW",
  "CROSSED FLAGSfNEGATIVE SQUARED LATIN CAPITAL LETTER P",
  "CROSSED SWORDSjING LANESlWNdUTCHdZEIRO SIGNlYING CAT FACEiFACEiSTAL BALLlSIcUBE ROOThCUMBER",
  "CUNEIFORM NUMERIC SIGN EIGHT ASHdDISHeGESH2fSHAR2fUa VARIANT FORMoVARIANT FORM USSUa3",
  "CUNEIFORM NUMERIC SIGN ELAMITE FIFTYeORTYfONE THIRDjTWO THIRDSsFIVE ASHa TENUiBAN2",
  "CUNEIFORM NUMERIC SIGN FIVE BAN2 VARIANT FORMqURUeDISHeGESH2bUfSHAR2bUeIXTHS DISHlU",
  "CUNEIFORM NUMERIC SIGN FIVE U VARIANT FORMsOUR ASHa TENUiBAN2a VARIANT FORMqURUeDISHeGESH2bU",
  "CUNEIFORM NUMERIC SIGN FOUR SHAR2bUfUa VARIANT FORMoVARIANT FORM LIMMUa AbBc4yNIGIDAESHdMIN",
  "CUNEIFORM NUMERIC SIGN NINE ASHdDISHeGESH2fSHAR2fUa VARIANT FORMoVARIANT FORM ILIMMUa Ac3b4",
  "CUNEIFORM NUMERIC SIGN OLD ASSYRIAN ONE QUARTERhSIXTHvNE BAN2dURUeEIGHTH ASHjSHE3fGESH2bU",
  "CUNEIFORM NUMERIC SIGN ONE HALF GURiQUARTER ASHdGURlSHARUfTHIRD DISHeVARIANT FORM AySEVEN ASH",
  "CUNEIFORM NUMERIC SIGN SEVEN DISHeGESH2fSHAR2fUa VARIANT FORMoVARIANT FORM IMIN AbBc3",
  "CUNEIFORM NUMERIC SIGN SHAR2 TIMES GAL PLUS DISHeMINxIX ASHa TENUiDISHeGESH2fSHAR2fU",
  "CUNEIFORM NUMERIC SIGN SIX U VARIANT FORMoVARIANT FORM ASH9vTHREE ASHa TENUiBAN2dURU",
  "CUNEIFORM NUMERIC SIGN THREE BURU VARIANT FORMrDISHeGESH2bUfSHAR2a VARIANT FORMoU",
  "CUNEIFORM NUMERIC SIGN THREE SHARU VARIANT FORMsVARIANT FORM ESH16c21xWO ASHa TENUiBAN2dURU",
  "CUNEIFORM NUMERIC SIGN TWO ESHE3fGESH2bUfSHAR2bUfTHIRDS DISHeVARIANT FORM A",
  "CUNEIFORM PUNCTUATION SIGN DIAGONAL COLONfQUADCOLONjTRICOLONrOLD ASSYRIAN WORD DIVIDER",
  "CUNEIFORM PUNCTUATION SIGN VERTICAL COLON",
  "CUNEIFORM SIGN Aa TIMES AbBADdGAN2 TENUjHAcIGIdLAGAR GUNUkMUSHeSAGk2bBa GUNUeTIMES ASH2",
  "CUNEIFORM SIGN AB TIMES DUN3 GUNUjGALbN2 TENUjHAcIGI GUNUhMINeLAGABfNUNa TENUiSHESHdU2",
  "CUNEIFORM SIGN AB TIMES U PLUS U PLUS Uw2a TIMES AbBALAGfGAN2 TENUjME PLUS ENkSHA3eTAK4nD",
  "CUNEIFORM SIGN AD TIMES ESH2mKa TIMES ERIN2fSHITA PLUS GISHxLa TIMES ALcDIM2eGISHeHAcKAD3dI",
  "CUNEIFORM SIGN AL TIMES SHEdUSHkANcEPHeMARa TIMES KUGdSHEnNa OVER AN",
  "CUNEIFORM SIGN AN PLUS NAGA OPPOSING AN PLUS NAGAvSQUAREDrTHREE TIMESmSHEePINdRADa TIMES KUR",
  "CUNEIFORM SIGN ARKABeSAL2dHa KABA TENUjOVER ASH OVER ASHa CROSSING ASH OVER ASH OVER ASH",
  "CUNEIFORM SIGN ASH OVER ASH TUG2 OVER TUG2 TUG2 OVER TUG2 PAP",
  "CUNEIFORM SIGN ASH ZIDA TENUk2bGABgBAaDa TIMES DISH TENUrG3cHAR2a TIMES AB2dNIcZAnLa OVER BAL",
  "CUNEIFORM SIGN BALAGdRaA2eIa TIMES AbGARdIGI GUNUqUa CROSSING BUlOVER BU ABcTIMES NA2jUNlLUG",
  "CUNEIFORM SIGN BULUG OVER BULUGoRa2eDAa TIMES TAK4lGa KISIM5 TIMES A PLUS MASHkMAReBALAGeIcGA",
  "CUNEIFORM SIGN DAG KISIM5 TIMES GA PLUS MASHlIaR2dUDdHAcIRa PLUS LUkKAKdLAbUa PLUS MASH2lMdNE",
  "CUNEIFORM SIGN DAG KISIM5 TIMES PAP PLUS PAPmSIcTAK4eU2 PLUS GIR2eMASHlSHqTIMES KURk3cMbRaA3b4",
  "CUNEIFORM SIGN DIaBbMa TIMES IGIdSHEdU U Um2a TIMES UDlNa KASKAL U GUNU DISHuSHa PLUS SHUmU",
  "CUNEIFORM SIGN DU GUNUeOVER DUhSHESHIGiBa TIMES ESH2eSHEk2cGa TIMES ANSHEeSHa AT LEFTlDINcUN",
  "CUNEIFORM SIGN DUG TIMES ERIN2fGAbIaR2 GUNUhSHeHAbIcIGI GUNUiKASKALfURbSHU2a PLUS KASKAL",
  "CUNEIFORM SIGN DUG TIMES LAK-020fMa TIMES KURmUH PLUS GISHnMASHdEScIcNIcPIcSHEcI GUNUoUDdHbNa3",
  "CUNEIFORM SIGN DUN3 GUNUa GUNUl4cR2eEa OVER E NUN OVER NUNtTIMES PAPk2",
  "CUNEIFORM SIGN E2 TIMES A PLUS HA PLUS DArGARdKURdMIcPAPdSALcHEdUjDINdGIRdLbNa CROSSING EN",
  "CUNEIFORM SIGN EN OPPOSING ENlSQUAREDhTIMES GAN2a TENUjMEkRENcIN2a XgSH2a CROSSING ESH2rZEN",
  "CUNEIFORM SIGN EZEN SHESHIG TIMES ASHdHIcIGI GUNUiLAaLdMEaSdSUqTIMES Aa PLUS LALa TIMES LALtN",
  "CUNEIFORM SIGN EZEN TIMES BADdDUN3 GUNUa GUNUoGUDdHAa GUNUhIGI GUNUiKASKALa SQUAREDnU3dLA",
  "CUNEIFORM SIGN EZEN TIMES LAL TIMES LALmIbUcSHEcUcU2bDnGAa GUNUf2a OVER GA2",
  "CUNEIFORM SIGN GA2 TIMES A PLUS DA PLUS HAkHAcIGIjB2 TENU PLUS TABqNa PLUS KAK PLUS ArSHa2",
  "CUNEIFORM SIGN GA2 TIMES ASH2 PLUS GALnBADbHAR2eR PLUS RAkURa PLUS RAlDAbIaM GUNUeTIMES SHEmUB",
  "CUNEIFORM SIGN GA2 TIMES DUG TIMES IGI GUNUiKASKALqELa PLUS LAjNa TIMES GAN2 TENUrRENeGA",
  "CUNEIFORM SIGN GA2 TIMES GAN2 TENUhRa PLUS DIcNEkIa4a PLUS AiR2 PLUS SUmHA PLUS AbLU PLUS ESH2",
  "CUNEIFORM SIGN GA2 TIMES HALa PLUS LAkI PLUS LIjUB2eIGI GUNUhSH PLUS HU PLUS ASHuKAKbSKALfID",
  "CUNEIFORM SIGN GA2 TIMES KID PLUS LALlU3 PLUS ANjSHU2 PLUS KASKALsLAaMa TIMES KURmUH",
  "CUNEIFORM SIGN GA2 TIMES ME PLUS ENjIbUSHeNEa PLUS E2cGIjUNa OVER NUNmPAcSALbRcHEa PLUS TURkID",
  "CUNEIFORM SIGN GA2 TIMES SHIMdUMdTAK4eUaDa PLUS DUkZIZ2mBAa CROSSING GABA",
  "CUNEIFORM SIGN GABA ROTATED NINETY DEGREESzDa OVER GAD GAR OVER GARxL",
  "CUNEIFORM SIGN GAL GAD OVER GAD GAR OVER GAR",
  "CUNEIFORM SIGN GALAMdMbNa2a CROSSING GAN2nOVER GAN2jTENUhRa3cSHANfE22cSHTINa TIMES KURdUoI",
  "CUNEIFORM SIGN GI CROSSING GIlTIMES EbUi4a CROSSING GI4mOVER GI4kDIMdGbR2a GUNUg3",
  "CUNEIFORM SIGN GIR3 TIMES A PLUS IGIkGAN2 TENUjIGIdLU PLUS IGIlPAlSALcHa CROSSING GISHnTENU",
  "CUNEIFORM SIGN GISH TIMES BADdGISH CROSSING GISHsTAK4oUa CROSSING GUm2a GUNUeTIMES IGI GUNU",
  "CUNEIFORM SIGN GU2 TIMES KAKa TIMES IGI GUNUsNUNdSAL PLUS TUG2vDa OVER GUD LUGAL",
  "CUNEIFORM SIGN GUD PLUS GISH TIMES TAK4uTIMES A PLUS KURkKURlLbMa TIMES SHElRa7bUNbSHgHAa GUNU",
  "CUNEIFORM SIGN HA TENUa GUNUkLcIa TIMES ASHa OVER HI TIMES ASHs2eBADdDISHeGADdKINdNUNdSHEdUjU",
  "CUNEIFORM SIGN HUB2a TIMES ANcHALdKASKALgLISHeUDlL2cSHeIa AcBbDIMa OVER IDIM BURdSQUAREDvGaI",
  "CUNEIFORM SIGN IGI DIBdGUNUeOVER IGI SHIR OVER SHIR UD OVER UD",
  "CUNEIFORM SIGN IGI RIfLa TIMES GAN2 TENUq2cMa CROSSING IMlOPPOSING IMlSQUAREDhTIMES TAK4lINdN",
  "CUNEIFORM SIGN IRbSHdKAa TIMES AaDa PLUS KU3kNSHEeSH2b3eBADbLAGdRcIbUcERIN2eSH2eGAaLbN2 TENUhR",
  "CUNEIFORM SIGN KA TIMES GAR PLUS SHA3 PLUS AtIaR2cSHa CROSSING GISHnPLUS SARmUaDbR7",
  "CUNEIFORM SIGN KA TIMES HI TIMES ASH2nIGIcMcKAaKcIaDdLIbUaMdMEa PLUS DUcGIcTEjIa PLUS NUNUZnNE",
  "CUNEIFORM SIGN KA TIMES NUNdPAbIcRUcSAaRcHAbEbIDcUaLdIGcUHURfTARcUcUa U Ue2bDbMUM TIMES PAmRa2",
  "CUNEIFORM SIGN KA TIMES USHdZIj2a CROSSING KA2oBbD2b3b4b5a OVER KAD5mKa TIMES IGI GUNUqL",
  "CUNEIFORM SIGN KAL CROSSING KALmTIMES BADlM2b4cP ELAMITEjSKAL",
  "CUNEIFORM SIGN KASKAL LAGAB TIMES U OVER LAGAB TIMES U",
  "CUNEIFORM SIGN KASKAL OVER KASKAL LAGAB TIMES U OVER LAGAB TIMES U",
  "CUNEIFORM SIGN KESH2eIa TIMES BADdUaDjDbNbSALcHbIM5a OVER KISIM5rU",
  "CUNEIFORM SIGN KU OVER HI TIMES ASH2 KU OVER HI TIMES ASH2",
  "CUNEIFORM SIGN KU3b4a VARIANT FORMo7bLa GUNUgNbRa OPPOSING KURoSHU2fWU318gLAaGABa SQUARED",
  "CUNEIFORM SIGN LAGAB TIMES Aa PLUS DA PLUS HAkGARdLALjLbNbSH ZIDA TENUnBADcIcDARdENcGAaRcIbUD",
  "CUNEIFORM SIGN LAGAB TIMES GUD PLUS GUDmHAaLcI TIMES NUNmIGI GUNUhMa PLUS HAcLUkKIaNcU3bL",
  "CUNEIFORM SIGN LAGAB TIMES KUL PLUS HI PLUS AsLAGABeISHdUaLdMEa PLUS ENjUSHeNEcSHE PLUS SUM",
  "CUNEIFORM SIGN LAGAB TIMES SHITA PLUS GISH PLUS ERIN2kTENUsU2a PLUS SHU2nUMdTAGbK4",
  "CUNEIFORM SIGN LAGAB TIMES TE PLUS A PLUS SU PLUS NAzUa PLUS AbU PLUS Uo2 PLUS ASHkDbSH",
  "CUNEIFORM SIGN LAGAB TIMES ZU OVER ZUsRa GUNUa OVER LAGAR GUNU SHEyTIMES SHEa PLUS SUMwHSHU",
  "CUNEIFORM SIGN LAK-003c21b5c30c50b1c62c79 OVER LAK-079 GUNUu80b1 OVER LAK-081p92d130c42d210b9",
  "CUNEIFORM SIGN LAK-220b5b8c38c65b6d343b7b8c83b4c90d441b9a TIMES GUcIGIdPAP PLUS LU3",
  "CUNEIFORM SIGN LAK-449 TIMES PAP PLUS PAP PLUS LU3vU2 PLUS BAt50b7c70c83c90b2b3b5d550d608c17",
  "CUNEIFORM SIGN LAK-617 TIMES ASHdBADdDUN3 GUNU GUNUoKU3dLAcTARcEcU2bDbRUDAo36c48a TIMES DUBdGA",
  "CUNEIFORM SIGN LAK-648 TIMES IGIa GUNUiNIcPAP PLUS PAP PLUS LU3vSHESH PLUS KInUDbRUDAp724c49fL",
  "CUNEIFORM SIGN LAL TIMES LALlMa TIMES KURa PLUS RUuIaLbMMU2eSHdUa TIMES BADk2a CROSSING LU2",
  "CUNEIFORM SIGN LU2 GUNU TIMES ASHoOPPOSING LU2mSHESHIGa TIMES BADqQUAREDhTENUdIMES ALcBADdDISH",
  "CUNEIFORM SIGN LU2 TIMES ESH2a PLUS LALiTENUjGAN2 TENUjHALcI TIMES BADmIMcKAD2b3a PLUS ASHmI",
  "CUNEIFORM SIGN LU2 TIMES LA PLUS ASHjGABfME PLUS ENkNEbUcPAPa PLUS PAP PLUS LU3vSHUcI PLUS ASH",
  "CUNEIFORM SIGN LU2 TIMES SIK2 PLUS BUmTAK4dUG2m3bGALa OPPOSING LUGALnVER LUGALkSHESHIGlHbLbM",
  "CUNEIFORM SIGN LUM OVER LUMa GAR OVER GARzMAa GUNUeTIMES TAK4l2bHbRbSHa2eEaSaHdIa PLUS ZA7jNcU",
  "CUNEIFORM SIGN MU OVER MUiGa GUNUgNSUBeRGU2eSHa CROSSING MUSHnOVER MUSHa TIMES A PLUS NAjGA",
  "CUNEIFORM SIGN MUSH OVER MUSH TIMES KAKtTIMES AbKURdZAj3a GUNUeTIMES Aa PLUS DIjDIcZAoNAa2b4",
  "CUNEIFORM SIGN NAGAa INVERTEDiOPPOSING NAGAnTIMES SHU TENUpRdMa NUTILLUi2dEa SHESHIGhTIMES A",
  "CUNEIFORM SIGN NE TIMES UDkIa TIMES Ei2bMa TIMES GAN2 TENUhR PLUS GAN2 TENU",
  "CUNEIFORM SIGN NINa9bDA2a TIMES ANbSHa PLUS ASHmBALdDIM GUNUiGIaSHdUDbLdHIcKESH2fLAK-050hMASH",
  "CUNEIFORM SIGN NINDA2 TIMES ME PLUS GAN2 TENUrNEbUNdPAP PLUS PAPmSHEa PLUS A ANdSHa PLUS ASHvU",
  "CUNEIFORM SIGN NINDA2 TIMES U PLUS Uh2 PLUS ASHkRUDAeSHoSAGeUa11a OVER NU11 BUR OVER BUR",
  "CUNEIFORM SIGN NU11 ROTATED NINETY DEGREESwTENUhNa CROSSING NUNa LAGAR OVER LAGAR",
  "CUNEIFORM SIGN NUN LAGAR TIMES GARdMASHeSALa OVER NUN LAGAR TIMES SAL",
  "CUNEIFORM SIGN NUN LAGAR TIMES USHpOVER NUNiTENUfUZa AB2 TIMES ASHGABgBIcDUGdGUDdIGI GUNUiKAD3",
  "CUNEIFORM SIGN NUNUZ AB2 TIMES LAcNEcSILA3fU2mKISIM5 TIMES BIa UxPAaDbNbPcESH2a ASTERISKnI",
  "CUNEIFORM SIGN PI CROSSING PIlTIMES AaBcBIbUcEbIaBcUa2jR2bIGa OPPOSING PIRIGoTIMES KALdUDcZA",
  "CUNEIFORM SIGN RAaBcIbUcSAaGa GUNUa TIMES HAnNUTILLUhOVER SAGiTIMES AbDUaBdENcHAcIGI GUNUiKAK",
  "CUNEIFORM SIGN SAG TIMES KURdLUMdMIcNUNdSALcHE AT LEFTjIDeTABbK4eU2bBbMbRbSHlL",
  "CUNEIFORM SIGN SAL LAGAB TIMES ASH2sNGA2eRcHAa3a TIMES AbBADdGISHeNEcSHU2eTURdUa PLUS Aq6",
  "CUNEIFORM SIGN SHA6 TENUgB6cR2dEa HUcOVER SHEa GAD OVER GAD GAR OVER GAR",
  "CUNEIFORM SIGN SHE OVER SHE TAB OVER TAB GAR OVER GAR",
  "CUNEIFORM SIGN SHE PLUS HUB2eNAM2eSARjG9cNbSHa2bLAMgIDa TIMES AbIMkMa TIMES AbBALcULUGfDINdGAR",
  "CUNEIFORM SIGN SHIM TIMES IGIa GUNUiKUSHU2gLULdMUGdSALlNIGdRa OVER SHIR BUR OVER BURwTENUgTAdU",
  "CUNEIFORM SIGN SHU OVER INVERTED SHUs2a PLUS DUG TIMES NImE2 TIMES ANsBURfIa GUNUeTIMES TAK4lG",
  "CUNEIFORM SIGN SIG4a OVER SIG4 SHU2rK2cLA3eUa OVER SUiDa2cHURdMaASHeRa9eTAa ASTERISKiGUNU",
  "CUNEIFORM SIGN TA TIMES HIcMIjBa OVER TAB NI OVER NI DISH OVER DISH",
  "CUNEIFORM SIGN TAB SQUAREDjGa TIMES BIcGUDdSHEbUdTUG2eUDkK4a PLUS SAGlRcEa GUNUgIa TENUf2bLbR",
  "CUNEIFORM SIGN TIR OVER TIRa GAD OVER GAD GAR OVER GAR",
  "CUNEIFORM SIGN TIR TIMES TAK4nUaG2cKbMa TIMES GAN2 TENUjTHREE DISHsRa OVER TUR ZA OVER ZAxU",
  "CUNEIFORM SIGN U GUDdOVER U PA OVER PA GAR OVER GARxSUR OVER SURmU REVERSED OVER U REVERSED",
  "CUNEIFORM SIGN U Ua Ue2bBbDa GUNUeKUSHU2gSHESHIGa TIMES BADrTIMES BADdMIcU PLUS U PLUS Ua GUNU",
  "CUNEIFORM SIGN UDUGdMa TIMES LAGABfMEa PLUS DAkSHA3eUiBINdUMa TIMES KASKALgPAmNa GUNUgR",
  "CUNEIFORM SIGN UR CROSSING URlSHESHIGi2a INVERTEDiTIMES A PLUS HAcNAiLcHAcNUNdU2a PLUS ASHdBI",
  "CUNEIFORM SIGN UR2 TIMES UDk4bIa3cUa TIMES AaSHGABgBARdDARA3eUNdGAaLbN2 TENUhRcUcHAcIGIcMbSH",
  "CUNEIFORM SIGN URU TIMES KIcLAK-668gU3bMdMINdPAcSHEcIG4eTUcU PLUS GUDjDbRUDAmDAa TIMES UmSH",
  "CUNEIFORM SIGN USH TIMES AbKUaRdTAK4l2bUMXdXdTUKIeZ3a TIMES KASKALoUdZAa SQUARED TIMES KUR",
  "CUNEIFORM SIGN ZA TENUf7bGbMXdE2cIa OVER ZIi3bBa KABA TENUlGbZ2dUa OVER ZU PLUS SARr5a TIMES A",
  "CUNEIFORM SIGN ZU5 TIMES THREE DISH TENUxBURdMqP ON BLACK SQUAREpWITH STRAWlCAKEeIDO",
  "CURLING STONEjY BRACKET EXTENSIONrLOGICAL ANDdORiOPhRENCY EXCHANGEiSIGNjY AND RICE",
  "CURVED STEM PARAGRAPH SIGN ORNAMENT",
  "CUSTARDdOMSfT OF MEATkYCLONEfLINDRICITYkPRIOT SYLLABLE AbEbIbJAbOcKAbEbIbObUcLAbEbIbObUcMAbEbI",
  "CYPRIOT SYLLABLE MObUcNAbEbIbObUcObPAbEbIbObUcRAbEbIbObUcSAbEbIbObUcTAbEbIbObUcUbWAbEbIbOcXAbE",
  "CYPRIOT SYLLABLE ZAbOpO-MINOAN SIGN CM001b2b4b5b6b7b8b9c10b1b2aBc3b5b7b9c21b3b4b5b6b7b8b9c30b3",
  "CYPRO-MINOAN SIGN CM034b5b6b7b8b9c40b1b4b6b7b9c50b1b2b3b4b5b6b8b9c60b1b2b3b4b6b7b8b9c70b1b2b3",
  "CYPRO-MINOAN SIGN CM074b5aBc6b8b9c80b1b2b3b4b5b6b7b8b9c90b1b2b4b5b6b7b8b9d100b1b2b3b4b5b7b8b9",
  "CYPRO-MINOAN SIGN CM110b2b4d301b2vRILLIC CAPITAL LETTER Aa WITH BREVEfDIAERESISpBKHASIAN CHE",
  "CYRILLIC CAPITAL LETTER ABKHASIAN CHE WITH DESCENDERsDZEdHAlLEUT KAiBARRED Oa WITH DIAERESIS",
  "CYRILLIC CAPITAL LETTER BASHKIR KAjEbIG YUSfNOCULAR OkLENDED YUSkROAD OMEGA",
  "CYRILLIC CAPITAL LETTER BYELORUSSIAN-UKRAINIAN IyCCHEdHEa WITH DESCENDERiIAERESIS",
  "CYRILLIC CAPITAL LETTER CHE WITH VERTICAL STROKExLOSED LITTLE YUSqROSSED OjDCHEdEbJEaRV",
  "CYRILLIC CAPITAL LETTER DOUBLE MONOCULAR OlOhWEcZEaLOdHEcWEcZEbHEfEa WITH DIAERESISpFbL",
  "CYRILLIC CAPITAL LETTER EL WITH DESCENDERjHOOKeMIDDLE HOOKlTAILlMa WITH TAILlNa WITH DESCENDER",
  "CYRILLIC CAPITAL LETTER EN WITH HOOKeLEFT HOOKjMIDDLE HOOKlTAILlRa WITH TICKlSa WITH DESCENDER",
  "CYRILLIC CAPITAL LETTER FITAeGHEa WITH DESCENDERjMIDDLE HOOKlSTROKEa AND HOOKpUPTURNoJEdHA",
  "CYRILLIC CAPITAL LETTER HA WITH DESCENDERjHOOKeSTROKEmRD SIGNiWEdIa WITH DIAERESISjGRAVE",
  "CYRILLIC CAPITAL LETTER I WITH MACRONmEa WITH BREVEfGRAVEmOaTAbIFIED AbBIG YUS",
  "CYRILLIC CAPITAL LETTER IOTIFIED CLOSED LITTLE YUSrEbLITTLE YUSkYATlZHITSA",
  "CYRILLIC CAPITAL LETTER IZHITSA WITH DOUBLE GRAVE ACCENT",
  "CYRILLIC CAPITAL LETTER JEcKAa WITH DESCENDERjHOOKeSTROKEgVERTICAL STROKEwHAKASSIAN CHEnJE",
  "CYRILLIC CAPITAL LETTER KOMI DEbJEcZJEeLJEdNJEdSJEdTJEdZJEgPPAeSIdLHAcITTLE YUSjJEdMONOCULAR O",
  "CYRILLIC CAPITAL LETTER MONOGRAPH UKmNEUTRAL YERkJEdOa WITH DIAERESISpMEGAa WITH TITLOpTcPE",
  "CYRILLIC CAPITAL LETTER PE WITH DESCENDERjMIDDLE HOOKsSIdQAcREVERSED DZEdTSEdYUcZEkHA",
  "CYRILLIC CAPITAL LETTER ROUND OMEGAlSCHWAa WITH DIAERESIStEMISOFT SIGNmHAbCHAdHA",
  "CYRILLIC CAPITAL LETTER SHHA WITH DESCENDERrORT Ia WITH TAILlUfWEdOFT DEcELbMcSIGNiTRAIGHT U",
  "CYRILLIC CAPITAL LETTER STRAIGHT U WITH STROKEwTCHEdEa WITH DESCENDERjMIDDLE HOOKsSEbHEcSEcWE",
  "CYRILLIC CAPITAL LETTER TWEdUa WITH DIAERESISiOUBLE ACUTEmMACRONmKaRAINIAN IEmVEcWEcYAaEbTcERU",
  "CYRILLIC CAPITAL LETTER YERU WITH BACK YERiDIAERESISsIbNbUcZEa WITH DESCENDERiIAERESISpMLYAfHE",
  "CYRILLIC CAPITAL LETTER ZHE WITH BREVEfDESCENDERiIAERESISqWEkIGATURE A IEeEN GHEgTE TSExKAVYKA",
  "CYRILLIC LETTER MULTIOCULAR OnPALOCHKAiSMALL CAPITAL ELxPAYEROKhSMALL LETTER Aa WITH BREVE",
  "CYRILLIC SMALL LETTER A WITH DIAERESISpBKHASIAN CHEa WITH DESCENDERsDZEdHAlLEUT KAiBARRED O",
  "CYRILLIC SMALL LETTER BARRED O WITH DIAERESISvSHKIR KAjEbIG YUSfNOCULAR OkLENDED YUS",
  "CYRILLIC SMALL LETTER BROAD OMEGAkYELORUSSIAN-UKRAINIAN IyCCHEdHEa WITH DESCENDERiIAERESIS",
  "CYRILLIC SMALL LETTER CHE WITH VERTICAL STROKExLOSED LITTLE YUSqROSSED OjDCHEdEbJEaRV",
  "CYRILLIC SMALL LETTER DOUBLE MONOCULAR OlOhWEcZEaLOdHEcWEcZEbHEfEa WITH DIAERESISpFbL",
  "CYRILLIC SMALL LETTER EL WITH DESCENDERjHOOKeMIDDLE HOOKlTAILlMa WITH TAILlNa WITH DESCENDER",
  "CYRILLIC SMALL LETTER EN WITH HOOKeLEFT HOOKjMIDDLE HOOKlTAILlRa WITH TICKlSa WITH DESCENDER",
  "CYRILLIC SMALL LETTER FITAeGHEa WITH DESCENDERjMIDDLE HOOKlSTROKEa AND HOOKpUPTURNoJEdHA",
  "CYRILLIC SMALL LETTER HA WITH DESCENDERjHOOKeSTROKEmRD SIGNiWEdIa WITH DIAERESISjGRAVEfMACRON",
  "CYRILLIC SMALL LETTER IEa WITH BREVEfGRAVEmOaTAbIFIED AbBIG YUShCLOSED LITTLE YUSrEbLITTLE YUS",
  "CYRILLIC SMALL LETTER IOTIFIED YATlZHITSAa WITH DOUBLE GRAVE ACCENT",
  "CYRILLIC SMALL LETTER JEcKAa WITH DESCENDERjHOOKeSTROKEgVERTICAL STROKEwHAKASSIAN CHEnJE",
  "CYRILLIC SMALL LETTER KOMI DEbJEcZJEeLJEdNJEdSJEdTJEdZJEgPPAeSIdLHAcITTLE YUSjJEcONG-LEGGED DE",
  "CYRILLIC SMALL LETTER MONOCULAR OhGRAPH UKmNARROW OhEUTRAL YERkJEdOa WITH DIAERESISpMEGA",
  "CYRILLIC SMALL LETTER OMEGA WITH TITLOpTcPALOCHKAhEa WITH DESCENDERjMIDDLE HOOKsSIdQA",
  "CYRILLIC SMALL LETTER REVERSED DZEdTSEdYUcZEkHAcOUND OMEGAgED VEkSCHWAa WITH DIAERESIS",
  "CYRILLIC SMALL LETTER SEMISOFT SIGNmHAbCHAdHAa WITH DESCENDERrORT Ia WITH TAILlUfWEdOFT DEcEL",
  "CYRILLIC SMALL LETTER SOFT EMcSIGNiTRAIGHT Ua WITH STROKEwTALL HARD SIGNjTEcYAThCHEdE",
  "CYRILLIC SMALL LETTER TE WITH DESCENDERjMIDDLE HOOKsHREE-LEGGED TEoSEbHEcSEcWEdWEdU",
  "CYRILLIC SMALL LETTER U WITH DIAERESISiOUBLE ACUTEmMACRONmKaRAINIAN IElNBLENDED UKmVEcWE",
  "CYRILLIC SMALL LETTER WIDE EShYAaEbTcERUa WITH BACK YERiDIAERESISsIbNbUcZEa WITH DESCENDER",
  "CYRILLIC SMALL LETTER ZE WITH DIAERESISpMLYAfHEa WITH BREVEfDESCENDERiIAERESISqWEkIGATURE A IE",
  "CYRILLIC SMALL LIGATURE EN GHEgTE TSEvTHOUSANDS SIGNxDAGGERa KNIFEfWITH LEFT GUARDkRIGHT GUARD",
  "DALET SYMBOLkNCERdGOdRK SHADEeUNGLASSESnSH SYMBOLgWITH LEFT UPTURNrED LOW LINEiOVERLINE",
  "DASHED TRIANGLE-HEADED RIGHTWARDS ARROW",
  "DATA LINK ESCAPEpC1b2b3b4bScEAF PERSONjCIDUOUS TREEkMAL EXPONENT SYMBOLpSEPARATOR KEY SYMBOL",
  "DECREASE FONT SIZE SYMBOLxERcGREE CELSIUShFAHRENHEITkSIGNjLaETEdIVERY TRUCKlTA EQUAL TO",
  "DENTISTRY SYMBOL LIGHT DOWN AND HORIZONTALa WITH CIRCLEgTRIANGLEiWAVE",
  "DENTISTRY SYMBOL LIGHT UP AND HORIZONTALa WITH CIRCLEgTRIANGLEiWAVE",
  "DENTISTRY SYMBOL LIGHT VERTICAL AND BOTTOM LEFTeRIGHTmTOP LEFTeRIGHTjWAVEiWITH CIRCLEgTRIANGLE",
  "DEPARTMENT STOREoRELICT HOUSE BUILDINGvSCENDING NODEmERET CAPITAL LETTER AYcBEEdCHEEeDEEdEFbL",
  "DESERET CAPITAL LETTER EMbNaGcRbSaHcTHcWcGAYdHbJEEdKAYdLONG AaHcEbIbOaOhOIbWcPEEdSHORT AaHcEbI",
  "DESERET CAPITAL LETTER SHORT OaOiTEEcHEEeVEEdWUcYEEdZEEcHEEtSMALL LETTER AYcBEEdCHEEeDEEdEFbL",
  "DESERET SMALL LETTER EMbNaGcRbSaHcTHcWcGAYdHbJEEdKAYdLONG AaHcEbIbOaOhOIbWcPEEdSHORT AaHcEbIbO",
  "DESERET SMALL LETTER SHORT OOiTEEcHEEeVEEdWUcYEEdZEEcHEEuTa ISLANDkKTOP COMPUTERiWINDOW",
  "DEVANAGARI ABBREVIATION SIGNqCUTE ACCENTmCARETfDANDAeIGIT EIGHTfFIVEdOUReNINEeONEdSEVENeIX",
  "DEVANAGARI DIGIT THREEeWOdZEROjOUBLE DANDAmGAP FILLERjRAVE ACCENTmHEADSTROKEkJAIN OMhLETTER A",
  "DEVANAGARI LETTER AAbIbUbWbYcBAbBAcHAdCAaNDRA AbEbOhHAdDAbDAbDAbHAdHAdHAdEbFAcGAbGAcHAbHA",
  "DEVANAGARI LETTER GLOTTAL STOPmHAbEAVY YAiIaIcJAbHAcJAdKAbHAbHAeLAbLAbLAeMAaRWARI DDAlNAbGAcNA",
  "DEVANAGARI LETTER NNNAdYAdOaEbOEdPAbHAdQAcRAbHAcRAdSAbHAbORT AbEbOgSAdTAbHAcTAbHAeUaEbUaEdVA",
  "DEVANAGARI LETTER VOCALIC LaLcRaRkYAbYAdZAbHAkOMcSIGN ANUSVARAhVAGRAHAiCANDRABINDUa AVAGRAHA",
  "DEVANAGARI SIGN CANDRABINDU THREEeWOdVIRAMAsDOUBLE CANDRABINDU VIRAMAzHIGH SPACING DOT",
  "DEVANAGARI SIGN INVERTED CANDRABINDUuNUKTAfPUSHPIKAiSIDDHAMgPACING CANDRABINDUtVIRAMAeSARGA",
  "DEVANAGARI STRESS SIGN ANUDATTAiUDATTAsVOWEL SIGN AAbIbUbWbYcCANDRA EbLONG EgOiEbIaIcOaEbOE",
  "DEVANAGARI VOWEL SIGN PRISHTHAMATRA EpSHORT EbOhUaEbUaEdVOCALIC LaLcRaR",
  "DEVICE CONTROL FOUReONEdSTRINGgTHREEeWOrIAERESISgMETER SIGNjOND OPERATOR",
  "DIAMOND SHAPE WITH A DOT INSIDExTARGETgWITH BOTTOM HALF BLACKrLEFT HALF BLACKpRIGHT HALF BLACK",
  "DIAMOND WITH TOP HALF BLACKzE FACE-1b2b3b4b5b6hSEL LOCOMOTIVEpFFERENCE BETWEENqGIT EIGHT",
  "DIGIT EIGHT COMMAfFULL STOPpFIVEa COMMAfFULL STOPnOURa COMMAfFULL STOPoNINEa COMMAfFULL STOP",
  "DIGIT ONEa COMMAfFULL STOPnSEVENa COMMAfFULL STOPoIXa COMMAfFULL STOPnTHREEa COMMAfFULL STOP",
  "DIGIT TWOa COMMAfFULL STOPnZEROa COMMAfFULL STOPrRAM FOR EARTHaLY HEAVENfUMANnGREATER YANGdIN",
  "DIGRAM FOR HEAVENLY EARTHnUMAN EARTHlLESSER YANGdINtMENSION ORIGIN",
  "DINGBAT CIRCLED SANS-SERIF DIGIT EIGHTfFIVEdOUReNINEeONEdSEVENeIXdTHREEeWOdZEROkNUMBER TEN",
  "DINGBAT NEGATIVE CIRCLED DIGIT EIGHTfFIVEdOUReNINEeONEdSEVENeIXdTHREEeWOjNUMBER TEN",
  "DINGBAT NEGATIVE CIRCLED SANS-SERIF DIGIT EIGHTfFIVEdOUReNINEeONEdSEVENeIXdTHREEeWOdZERO",
  "DINGBAT NEGATIVE CIRCLED SANS-SERIF NUMBER TEN",
  "DIRECT CURRENT SYMBOL FORM TWOxHITiSABLED CARiPPOINTED BUT RELIEVED FACErFACE",
  "DISCONTINUOUS UNDERLINE SYMBOL",
  "DISGUISED FACEmTTO MARKiVES AKURU DIGIT EIGHTfFIVEdOUReNINEeONEdSEVENeIXdTHREEeWOdZERO",
  "DIVES AKURU DOUBLE DANDAmEND OF TEXT MARKqGAP FILLERkINITIAL RAkLETTER AaAcBAbHAdCAbHAdDAbDA",
  "DIVES AKURU LETTER DDHAdHAdEbGAbHAdHAcIaIcJAcKAbHAdLAbLAdMAcNAbGAcNAcYAdObPAbHAdRAcSAbHAcSAdTA",
  "DIVES AKURU LETTER THAcTAdUaUcVAcYAbYAdZAjMEDIAL RAcYAjPREFIXED NASAL SIGNtSIGN ANUSVARA",
  "DIVES AKURU SIGN CANDRABINDUlHALANTAhNUKTAkVIRAMAfOWEL SIGN AAbIcEbIaIcObUaUwIDESdNG MASK",
  "DIVISION SIGNdLASHfTIMESlORCE SYMBOLmYA LAMPhZZY FACEeSYMBOLlLEcNA DOUBLE HELIX",
  "DO NOT LITTER SYMBOLsCUMENTa WITH PICTUREhTEXTa AND PICTURE",
  "DODOcES NOT CONTAIN AS MEMBERgNORMAL SUBGROUPa OR EQUAL",
  "DOES NOT DIVIDEa WITH REVERSED NEGATION SLASH",
  "DOES NOT FORCEfPRECEDEa OR EQUALoOVEfSUCCEEDa OR EQUALxGa FACEfRA ABBREVIATION SIGNrLETTER AaA",
  "DOGRA LETTER AIbUcBAbHAdCAbHAdDAbDAbHAdHAdEbGAbHAdHAcIaIcJAbHAdKAbHAdLAcMAcNAbGAcNAcYAdObPAbHA",
  "DOGRA LETTER RAbRAdSAbHAcSAdTAbHAcTAbHAeUaUcVAcYAjSIGN ANUSVARAiNUKTAfVIRAMAeSARGA",
  "DOGRA VOWEL SIGN AAbIbUcEbIaIcObUaUcVOCALIC RaRzLLAR SIGNiPHINfMINO TILE HORIZONTAL BACK",
  "DOMINO TILE HORIZONTAL-00-00b1b2b3b4b5b6e1-00b1b2b3b4b5b6e2-00b1b2b3b4b5b6e3-00b1b2b3b4b5b6",
  "DOMINO TILE HORIZONTAL-04-00b1b2b3b4b5b6e5-00b1b2b3b4b5b6e6-00b1b2b3b4b5b6qVERTICAL BACK",
  "DOMINO TILE VERTICAL-00-00b1b2b3b4b5b6e1-00b1b2b3b4b5b6e2-00b1b2b3b4b5b6e3-00b1b2b3b4b5b6e4-00",
  "DOMINO TILE VERTICAL-04-01b2b3b4b5b6e5-00b1b2b3b4b5b6e6-00b1b2b3b4b5b6yNG SIGNhORcT ABOVE",
  "DOT MINUSfOPERATORiPLUSfTED CIRCLEfROSSfFENCEfLINE FACEjOBELOSgRIGHT-POINTING ANGLEuSOLIDUS",
  "DOTTED SQUAREgTRANSPOSITION MARKERzUBLE ACUTE ACCENTmCIRCLED DIGIT EIGHTfFIVEdOUReNINEeONE",
  "DOUBLE CIRCLED DIGIT SEVENeIXdTHREEeWOjNUMBER TENrOLON EQUALkURLY LOOPkDAGGERfOWN TACK",
  "DOUBLE EXCLAMATION MARKqHIGH-REVERSED-9 QUOTATION MARK",
  "DOUBLE HYPHENgINTEGRALeRSECTIONmLEFT ARC GREATER-THAN BRACKET",
  "DOUBLE LOGICAL ANDdORiW LINEf-9 QUOTATION MARKqREVERSED-9 QUOTATION MARK",
  "DOUBLE NESTED GREATER-THANmLESS-THANa WITH UNDERBAR",
  "DOUBLE OBLIQUE HYPHENoPLUSdRECEDESgIMEa QUOTATION MARKuQUESTION MARK",
  "DOUBLE RIGHT ARC LESS-THAN BRACKET",
  "DOUBLE SOLIDUS OPERATORpQUARE INTERSECTIONmUNIONlTACKED COMMAlROKE NOT SIGNoUBSETeCCEEDS",
  "DOUBLE SUPERSETgSPENSION MARKpUNIONeP TACKhVERTICAL BARa DOUBLE LEFT TURNSTILEoRIGHT TURNSTILE",
  "DOUBLE VERTICAL BAR LEFT TURNSTILEsLINEnWAVY OVERLINEo-ENDED MULTIMAP",
  "DOUBLE-LINE EQUAL TO OR GREATER-THANmLESS-THANvSLANTED EQUAL TO OR GREATER-THANmLESS-THAN",
  "DOUBLE-LINE SLANTED GREATER-THAN OR EQUAL TOyLESS-THAN OR EQUAL TO",
  "DOUBLE-STRUCK CAPITAL CbGAMMAfHbNbPaIcQbRbZjITALIC CAPITAL DjSMALL DbEbIbJoN-ARY SUMMATION",
  "DOUBLE-STRUCK SMALL GAMMAfPIqD FEMALE SIGNlMALE SIGNjSYMBOLlGHNUTgVE OF PEACElWN ARROWHEAD",
  "DOWN FISH TAILjRIGHT DIAGONAL ELLIPSISxTACKa WITH CIRCLE BELOWx-POINTING RED TRIANGLE",
  "DOWN-POINTING SMALL RED TRIANGLEsTRIANGLE WITH LEFT HALF BLACKpRIGHT HALF BLACK",
  "DOWNWARD FACING HOOKa WITH DOTnNOTCHED HOOKa WITH DOT",
  "DOWNWARDS ANCORAfRROWa AND RIGHT ONE EIGHTH BLOCK",
  "DOWNWARDS ARROW FROM BARiLEFTWARDS OF UPWARDS ARROW",
  "DOWNWARDS ARROW TO BARgWITH CORNER LEFTWARDSqDOUBLE STROKEnEQUILATERAL ARROWHEAD",
  "DOWNWARDS ARROW WITH HORIZONTAL STROKErLARGE TRIANGLE ARROWHEADyMEDIUM TRIANGLE ARROWHEAD",
  "DOWNWARDS ARROW WITH NOTCHED TAILmSMALL EQUILATERAL ARROWHEADvTRIANGLE ARROWHEADyTIP LEFTWARDS",
  "DOWNWARDS ARROW WITH TIP RIGHTWARDSzBLACK ARROWfCIRCLED WHITE ARROWzCOMPRESSED ARROW",
  "DOWNWARDS DASHED ARROWlOUBLE ARROWmFINGER-POST ARROW",
  "DOWNWARDS HARPOON WITH BARB LEFT BESIDE DOWNWARDS HARPOON WITH BARB RIGHT",
  "DOWNWARDS HARPOON WITH BARB LEFT BESIDE UPWARDS HARPOON WITH BARB RIGHT",
  "DOWNWARDS HARPOON WITH BARB LEFT FROM BARiTO BARhWARDSjRIGHT FROM BARiTO BARhWARDS",
  "DOWNWARDS HEAVY ARROWfCOMPRESSED ARROWwPAIRED ARROWSnQUADRUPLE ARROWpROCKETgSANS-SERIF ARROW",
  "DOWNWARDS SQUARED ARROWnTRIANGLE ARROWHEADk-HEADED ARROW",
  "DOWNWARDS TRIANGLE-HEADED ARROW LEFTWARDS OF UPWARDS TRIANGLE-HEADED ARROW",
  "DOWNWARDS TRIANGLE-HEADED ARROW TO BARgWITH BOLD SHAFTkDOUBLE HORIZONTAL STROKEyHEAVY SHAFT",
  "DOWNWARDS TRIANGLE-HEADED ARROW WITH LONG TIP LEFTWARDSjRIGHTWARDStMEDIUM SHAFTmNARROW SHAFT",
  "DOWNWARDS TRIANGLE-HEADED ARROW WITH VERY HEAVY SHAFT",
  "DOWNWARDS TRIANGLE-HEADED DASHED ARROWmPAIRED ARROWSnZIGZAG ARROWzPLE ARROWlWO HEADED ARROW",
  "DOWNWARDS TWO-HEADED ARROW WITH TRIANGLE ARROWHEADS",
  "DOWNWARDS WHITE ARROWa WITHIN TRIANGLE ARROWHEAD",
  "DOWNWARDS ZIGZAG ARROWvRACHMA SIGNjFTING POINT RIGHTWARDS ARROW",
  "DRAGONa FACEjESSdIVE SLOW SIGNnOMEDARY CAMELmOLING FACEkP OF BLOODjLETfUM WITH DRUMSTICKStUCK",
  "DUMPLINGgPLOYAN AFFIX ATTACHED E HOOKgI HOOKgLEFT-TO-RIGHT SECANTuSECANTgTAILcNGENTa HOOK",
  "DUPLOYAN AFFIX HIGH ACUTEfCIRCLEgDOTdGRAVEfLINEdONG GRAVEkTIGHT ACUTElVERTICALa SECANTpWAVE",
  "DUPLOYAN AFFIX LEFT HORIZONTAL SECANTvOW ACUTEeRROWfCIRCLEgDOTdGRAVEfLINEdONG GRAVE",
  "DUPLOYAN AFFIX LOW TIGHT ACUTElVERTICALa SECANTpWAVEiMID HORIZONTAL SECANTrVERTICAL SECANT",
  "DUPLOYAN AFFIX RIGHT HORIZONTAL SECANT",
  "DUPLOYAN DOUBLE MARKlLETTER AaOUdBbDa ScHcEaEbUcFa NdGa R SfHaLcIaEcJa Ma SdNa SdSa WITH DOT",
  "DUPLOYAN LETTER J WITH DOTaS INSIDE AND ABOVE",
  "DUPLOYAN LETTER Ka MbR SeKcLaHbONG IbUgMa Na SdSbWITH DOTkNa Ma SdSbWITH DOTjASAL AbIbObUhOaA",
  "DUPLOYAN LETTER OOHcUbWcPa NcERNIN AMbNjRa ScHbOMANIAN IbUkSa Ja SdKa RdMbNbPa RdSbTa R",
  "DUPLOYAN LETTER S WITH DOTa BELOWpHORT IgLOAN ANcDHcEEbHbNcJbONbWcUhTa R SdScHcUa NcHbIcV",
  "DUPLOYAN LETTER VOCALIC MjWa RcAbEIcHbIbOaWdXaWcYEjPUNCTUATION CHINOOK FULL STOP",
  "DUPLOYAN SIGN O WITH CROSSrTHICK LETTER SELECTOR",
  "DVDdE-MAIL SYMBOLmAGLEdRa OF MAIZEfRICEhWITH HEARING AIDrTHa GLOBE AMERICAShSIA-AUSTRALIA",
  "EARTH GLOBE EUROPE-AFRICAsROUNDkST SYRIAC CROSSqDITORIAL CORONISqGGbYPTIAN HIEROGLYPH A001b2b3",
  "EGYPTIAN HIEROGLYPH A004b5aAc6aAbBc7b8b9c10b1b2b3b4aAc5b6b7aAc8b9c20b1b2b3b4b5b6b7b8b9c30b1b2",
  "EGYPTIAN HIEROGLYPH A032Ac3b4b5b6b7b8b9c40aAc1b2aAc3aAc4b5aAc6b7b8b9c50b1b2b3b4b5b6b7b8b9c60b1",
  "EGYPTIAN HIEROGLYPH A062b3b4b5b6b7b8b9c70dA001b2b3b4b5b6b7aAbBc8b9c10b1b2b3b4b5b6b7b8b9c20b1b2",
  "EGYPTIAN HIEROGLYPH AA023b4b5b6b7b8b9c30b1b2fB001b2b3b4b5aAc6b7b8b9dEGIN SEGMENTnC001b2aAbBbC",
  "EGYPTIAN HIEROGLYPH C003b4b5b6b7b8b9c10aAc1b2b3b4b5b6b7b8b9c20b1b2b3b4eD001b2b3b4b5b6b7b8aAc9",
  "EGYPTIAN HIEROGLYPH D010b1b2b3b4b5b6b7b8b9c20b1b2b3b4b5b6b7aAc8b9c30b1aAc2b3b4aAc5b6b7b8b9c40",
  "EGYPTIAN HIEROGLYPH D041b2b3b4b5b6aAc7b8aAc9c50aAbBbCbDbEbFbGbHbIc1b2aAc3b4aAc5b6b7b8b9c60b1b2",
  "EGYPTIAN HIEROGLYPH D063b4b5b6b7aAbBbCbDbEbFbGbHfE001b2b3b4b5b6b7b8aAc9aAd10b1b2b3b4b5b6aAc7aA",
  "EGYPTIAN HIEROGLYPH E018b9c20aAc1b2b3b4b5b6b7b8aAc9c30b1b2b3b4aAc6b7b8dND SEGMENTlF001aAc2b3b4",
  "EGYPTIAN HIEROGLYPH F005b6b7b8b9c10b1b2b3aAc4b5b6b7b8b9c20b1aAc2b3b4b5b6b7b8b9c30b1aAc2b3b4b5",
  "EGYPTIAN HIEROGLYPH F036b7aAc8aAc9c40b1b2b3b4b5aAc6aAc7aAc8b9c50b1aAbBbCc2b3eG001b2b3b4b5b6aA",
  "EGYPTIAN HIEROGLYPH G007aAbBc8b9c10b1aAc2b3b4b5b6b7b8b9c20aAc1b2b3b4b5b6aAc7b8b9c30b1b2b3b4b5",
  "EGYPTIAN HIEROGLYPH G036aAc7aAc8b9c40b1b2b3aAc4b5aAc6b7b8b9c50b1b2b3b4eH001b2b3b4b5b6aAc7b8",
  "EGYPTIAN HIEROGLYPH HORIZONTAL JOINERrI001b2b3b4b5aAc6b7b8b9aAd10aAc1aAc2b3b4b5",
  "EGYPTIAN HIEROGLYPH INSERT AT BOTTOM ENDdSTARTmTOP ENDdSTARTtK001b2b3b4b5b6b7b8eL001b2aAc3b4b5",
  "EGYPTIAN HIEROGLYPH L006aAc7b8eM001aAbBc2b3aAc4b5b6b7b8b9c10aAc1b2aAbBbCbDbEbFbGbHc3b4b5aAc6aA",
  "EGYPTIAN HIEROGLYPH M017aAc8b9c20b1b2aAc3b4aAc5b6b7b8aAc9c30b1aAc2b3aAbBc4b5b6b7b8b9c40aAc1b2",
  "EGYPTIAN HIEROGLYPH M043b4eN001b2b3b4b5b6b7b8b9c10b1b2b3b4b5b6b7b8aAbBc9c20b1b2b3b4b5aAc6b7b8",
  "EGYPTIAN HIEROGLYPH N029c30b1b2b3aAc4aAc5aAc6b7aAc8b9c40b1b2dL001b2b3b4b5aAc6b7b8b9c10b1b2b3b4",
  "EGYPTIAN HIEROGLYPH NL015b6b7aAc8b9c20eU001b2b3b4b5b6b7b8b9c10aAc1aAc2b3b4b5b6b7b8aAc9c20b1b2",
  "EGYPTIAN HIEROGLYPH NU022AgO001aAc2b3b4b5aAc6aAbBbCbDbEbFc7b8b9c10aAbBbCc1b2b3b4b5b6b7b8b9aA",
  "EGYPTIAN HIEROGLYPH O020aAc1b2b3b4aAc5aAc6b7b8b9aAd30aAc1b2b3aAc4b5b6aAbBbCbDc7b8b9c40b1b2b3b4",
  "EGYPTIAN HIEROGLYPH O045b6b7b8b9c50aAbBc1dVERLAY MIDDLEoP001aAc2b3aAc4b5b6b7b8b9c10b1eQ001b2b3",
  "EGYPTIAN HIEROGLYPH Q004b5b6b7eR001b2aAc3aAbBc4b5b6b7b8b9c10aAc1b2b3b4b5b6aAc7b8b9c20b1b2b3b4",
  "EGYPTIAN HIEROGLYPH R025b6b7b8b9eS001b2aAc3b4b5b6aAc7b8b9c10b1b2b3b4aAbBc5b6b7aAc8b9c20b1b2b3",
  "EGYPTIAN HIEROGLYPH S024b5b6aAbBc7b8b9c30b1b2b3b4b5aAc6b7b8b9c40b1b2b3b4b5b6eT001b2b3aAc4b5b6",
  "EGYPTIAN HIEROGLYPH T007aAc8aAc9aAd10b1aAc2b3b4b5b6aAc7b8b9c20b1b2b3b4b5b6b7b8b9c30b1b2aAc3aA",
  "EGYPTIAN HIEROGLYPH T034b5b6eU001b2b3b4b5b6aAbBc7b8b9c10b1b2b3b4b5b6b7b8b9c20b1b2b3aAc4b5b6b7",
  "EGYPTIAN HIEROGLYPH U028b9aAd30b1b2aAc3b4b5b6b7b8b9c40b1b2eV001aAbBbCbDbEbFbGbHbIc2aAc3b4b5b6",
  "EGYPTIAN HIEROGLYPH V007aAbBc8b9c10b1aAbBbCc2aAbBc3b4b5b6b7b8b9c20aAbBbCbDbEbFbGbHbIbJbKbLc1b2",
  "EGYPTIAN HIEROGLYPH V023aAc4b5b6b7b8aAc9aAd30aAc1aAc2b3aAc4b5b6b7aAc8b9c40aAeERTICAL JOINER",
  "EGYPTIAN HIEROGLYPH W001b2b3aAc4b5b6b7b8b9aAd10aAc1b2b3b4aAc5b6b7aAc8aAc9c20b1b2b3b4aAc5eX001",
  "EGYPTIAN HIEROGLYPH X002b3b4aAbBc5b6aAc7b8aAfY001aAc2b3b4b5b6b7b8eZ001b2aAbBbCbDc3aAbBc4aAc5aA",
  "EGYPTIAN HIEROGLYPH Z006b7b8b9c10b1b2b3b4b5aAbBbCbDbEbFbGbHbIc6aAbBbCbDbEbFbGbH",
  "EIGHT PETALLED OUTLINED BLACK FLORETTE",
  "EIGHT POINTED BLACK STARkPINWHEEL STARnRECTILINEAR BLACK STAR",
  "EIGHT SPOKED ASTERISKpTEARDROP-SPOKED PROPELLER ASTERISK",
  "EIGHTH NOTEkJECT SYMBOLlLBASAN LETTER AbBEcCEbHEdDEbHEdEaIcFEcGEbHAMMAeEcJEdHEcIbJEcKEbHEdLE",
  "ELBASAN LETTER LLEdMEcNAbDEcEbJEdObPEcQEcREbREdSEbHEdTEbHEdUbVEcXEcYbZEbHEqECTRIC ARROW",
  "ELECTRIC LIGHT BULBkPLUGeTORCHgAL INTERSECTIONuMENT OFa OPENING DOWNWARDSjUPWARDS",
  "ELEMENT OF WITH DOT ABOVEjLONG HORIZONTAL STROKEwOVERBARhTWO HORIZONTAL STROKESwUNDERBAR",
  "ELEMENT OF WITH VERTICAL BAR AT END OF HORIZONTAL STROKE",
  "ELEPHANTfVATORgFbYMAIC LETTER ALEPHeYINeBETHeDALETHgGIMELfHEaTHeKAPHeLAMEDHgMEMdNUNdPEcQOPH",
  "ELYMAIC LETTER RESHeSADHEdMEKHfHINeTAWcETHeWAWdYODHeZAYINlIGATURE ZAYIN-YODH",
  "EM DASHeQUADeSPACEgOJI COMPONENT BALDeCURLY HAIRkRED HAIRiWHITE HAIR",
  "EMOJI MODIFIER FITZPATRICK TYPE-1-2d3b4b5b6",
  "EMPHASIS SYMBOLmTY DOCUMENTiNESTdOTEa PADbGEjPAGEaSfSETa WITH LEFT ARROW ABOVEqOVERBAR",
  "EMPTY SET WITH RIGHT ARROW ABOVErSMALL CIRCLE ABOVE",
  "EN DASHeQUADeSPACEgD OF GUARDED AREAmLINEeMEDIUMgPROOFcTECTED AREAoSELECTED AREAnTEXT",
  "END OF TRANSMISSIONa BLOCKvWITH LEFTWARDS ARROW ABOVE",
  "ENQaUIRYfTER SYMBOLkVELOPEa WITH DOWNWARDS ARROW ABOVEvLIGHTNINGwOLbMbTcPA",
  "EQUAL AND PARALLEL TOpTO BY DEFINITIONnOR GREATER-THANmLESS-THANjPRECEDESiSUCCEEDSpS COLON",
  "EQUALS SIGNa ABOVE LEFTWARDS ARROWpPLUS SIGNjRIGHTWARDS ARROWqTILDE OPERATOR",
  "EQUALS SIGN AND SLANTED PARALLELa WITH TILDE ABOVE",
  "EQUALS SIGN WITH BUMPY ABOVElDOT BELOWjINFINITY BELOWoTWO DOTS ABOVE AND TWO DOTS BELOW",
  "EQUALS WITH ASTERISKrIANGULAR TOkVALENT TOcWITH FOUR DOTS ABOVE",
  "ERASE TO THE LEFTeRIGHTqIS FORM ONEdTWOlROR-BARRED BLACK CIRCLEgDIAMONDhSQUAREmWHITE CIRCLE",
  "ERROR-BARRED WHITE DIAMONDhSQUAREySAbCaAPEeTIMATED SYMBOLiSiTBbHIOPIC COLON",
  "ETHIOPIC COMBINING GEMINATION AND VOWEL LENGTH MARKvMARKpVOWEL LENGTH MARKyMAfDIGIT EIGHTfFIVE",
  "ETHIOPIC DIGIT FOUReNINEeONEdSEVENeIXdTHREEeWOjFULL STOPjNUMBER EIGHTYgFIFTYeORTYfHUNDRED",
  "ETHIOPIC NUMBER NINETYgSEVENTYgIXTYfTENa THOUSANDlHIRTYfWENTYnPARAGRAPH SEPARATORsREFACE COLON",
  "ETHIOPIC QUESTION MARKnSECTION MARKkMICOLONiYLLABLE BAaAcBAaAcEaEcIbObUcEaEcIbOaAcUbWAbEaEcI",
  "ETHIOPIC SYLLABLE CAaAcCAaAcEaEcHAaAcEaEcHAaAcEaEcIbObUcIbObUcIbObUcEaEcHAaAcEaEcIbOaAcUbWAdI",
  "ETHIOPIC SYLLABLE COaAcUbWAdDAaAcDAaAcEaEcHAAcEaEcIbObUcIbOaAcUbWAdEaEcIbOaAcUbWAcZAAcEaEcIbO",
  "ETHIOPIC SYLLABLE DZUdFAaAcEaEcIbObUbWAbEaEcIcYAdGAaAcEaEcGAaAcEaEcIbObUbWAaAcEaEcIdIbLOTTAL A",
  "ETHIOPIC SYLLABLE GLOTTAL AAcEaEcIbOaAcUbWAjOaAcUaRAGE BWEEcIdFWEEcIdGWEaEcIdHHWAeKWEaEcIdMWEE",
  "ETHIOPIC SYLLABLE GURAGE MWIdPWEEcIdQWEaEcIjWAaAcEaEcIcYAaAcEaEcIbObUdHAaAcEaEcHAaAcEaEcIbObU",
  "ETHIOPIC SYLLABLE HHWAbEaEcIcYAaAcEaEcIbObUdIbOaAcUcJAaAcEaEcIbOaAcUbWAdKAaAcEaEcIbOaAcUbWAaA",
  "ETHIOPIC SYLLABLE KWEaEcIcXAaAcEaEcIbObUbWAaAcEaEcIdYAaAcEaEcIbObUdLAaAcEaEcIbOaAcUbWAdMAaAcE",
  "ETHIOPIC SYLLABLE MEEcIbOaAcUbWAbEaEcIcYAdNAaAcEaEcIbOaAcUbWAcYAaAcEaEcIbOaAcUbWAePAaAcEaEcHA",
  "ETHIOPIC SYLLABLE PHAAbRYNGEAL AaAcEaEcIbObUkEaEcIbOaAcUbWAdIbOaAcUbWAbEaEcIdQAaAcEaEcHAaAcEaE",
  "ETHIOPIC SYLLABLE QHIbObUbWAaAcEaEcIdIbOaAcUbWAaAcEaEcIcYAaAcEaEcIbObUdRAaAcEaEcIbOaAcUbWAcYA",
  "ETHIOPIC SYLLABLE SAaAcEaBATBEIT BWAdFWAdMWAdPWAlEcHAaAcEaEcIbOaAcUbWAdIbOaAcSAaAcEaEcIbObUcU",
  "ETHIOPIC SYLLABLE SWAcZAaAcEaEcIbObUbWAeTAaAcEaEcHAaAcEaEcIbOaAcUbWAdIbOaAcSAaAcEaEcIbObUbWA",
  "ETHIOPIC SYLLABLE TTHAAcEaEcIbObUdUbWAcZAaAcEaEcIbOaAcUdVAaAcEaEcIbObUbWAdWAaAcEaEcIbOaAcUcXA",
  "ETHIOPIC SYLLABLE XAAcEaEcIbOaAcUbWAaAcEaEcIcYAaAcEaEcIbObUdYAaAcEaEcIbOaAcUcZAaAcEaEcHAaAcEaE",
  "ETHIOPIC SYLLABLE ZHIbObUbWAdIbOaAcUbWAcZAaAcEaEcIbObUmTONAL MARK CHIRETgDERETa-HIDETkIFAT",
  "ETHIOPIC TONAL MARK HIDETfKENATeURTeRIKRIKgSHORT RIKRIKmYIZETqWORDSPACEqXcULER CONSTANT",
  "EURO SIGNf-CURRENCY SIGNoPEAN CASTLEgPOST OFFICEtVERGREEN TREEnXCESSdLAMATION MARK",
  "EXCLAMATION QUESTION MARKxPRESSIONLESS FACErTENDED ARABIC-INDIC DIGIT EIGHTfFIVEdOUReNINEeONE",
  "EXTENDED ARABIC-INDIC DIGIT SEVENeIXdTHREEeWOdZERO",
  "EXTRATERRESTRIAL ALIENsEMELY HEAVY FIVE SPOKED ASTERISKuGREEK CROSSlSALTIREgIX SPOKED ASTERISK",
  "EXTREMELY HEAVY WHITE CIRCLEgSQUARE",
  "EYEaGLASSEShSeFACE HOLDING BACK TEARSsMASSAGEhPALMeSAVOURING DELICIOUS FOODxCREAMING IN FEAR",
  "FACE THROWING A KISSpWITH COLD SWEATiWBOY HATkDIAGONAL MOUTHoFINGER COVERING CLOSED LIPS",
  "FACE WITH HEAD-BANDAGEmLOOK OF TRIUMPHpMEDICAL MASKlONOCLEhNO GOOD GESTUREpOK GESTURE",
  "FACE WITH ONE EYEBROW RAISEDrPEN EYES AND HAND OVER MOUTHyMOUTHa AND COLD SWEAToVOMITING",
  "FACE WITH PARTY HORN AND PARTY HATxEEKING EYEkLEADING EYESnROLLING EYESmSTUCK-OUT TONGUE",
  "FACE WITH STUCK-OUT TONGUE AND TIGHTLY-CLOSED EYEStWINKING EYE",
  "FACE WITH TEARS OF JOYlHERMOMETERlUNEVEN EYES AND WAVY MOUTH",
  "FACE WITHOUT MOUTHpSIMILE SIGNlTORYfIRYdLAFELeLEN LEAFhING DIAGONAL CROSSING NORTH EAST ARROW",
  "FALLING DIAGONAL CROSSING RISING DIAGONALyIN WHITE CIRCLE IN BLACK SQUARE",
  "FAMILYeRSI SYMBOLkTHER CHRISTMASoX ICONeMACHINEkEARFUL FACEjTHERfMALE SIGN",
  "FEMININE ORDINAL INDICATORyNCEReRRIS WHEELiYeFbIELD HOCKEY STICK AND BALLzGURE DASHeSPACE",
  "FILE CABINEThFOLDERgSEPARATORlM FRAMESgPROJECTORmNITE PART INTEGRALsREa ENGINEfXTINGUISHER",
  "FIRECRACKERhWORK SPARKLERjSgST PLACE MEDALlQUARTER MOONa SYMBOLgWITH FACEwSTRONG ISOLATEsSH",
  "FISH CAKE WITH SWIRL DESIGNxEYEdING POLE AND FISHsTED HAND SIGNoVE DOT MARKePUNCTUATION",
  "FLAG IN HOLEjMINGOfT SHOEfBREADfNESSgEUR-DE-LISjXED BICEPSlOPPY DISKiRAL HEARTjWER",
  "FLOWER PLAYING CARDSmUNCTUATION MARKvUSHED FACEkYaING DISCeENVELOPEiSAUCERmOGaGYdLDEReNDUEeOT",
  "FOOTPRINTSiR ALLeCESdK AND KNIFEa WITH PLATEvED PARAGRAPHOSoINGeM FEEDgTUNE COOKIEmUNTAIN",
  "FOUR BALLOON-SPOKED ASTERISKxCLUB-SPOKED ASTERISKtORNER ARROWS CIRCLING ANTICLOCKWISE",
  "FOUR DOT MARKePUNCTUATIONpLEAF CLOVERlPOINTED BLACK STARsTEARDROP-SPOKED ASTERISK",
  "FOUR-PER-EM SPACEnTH ROOTjX FACEhRACTION NUMERATOR ONEnSLASHlME WITH AN XePICTUREhTILES",
  "FREEZING FACEkNCH FRANC SIGNiIESkIED SHRIMPkOG FACEgNT-FACING BABY CHICK",
  "FRONT-TILTED SHADOWED WHITE RIGHTWARDS ARROW",
  "FROWNaING FACE WITH OPEN MOUTH",
  "FSaIcUEL PUMPhLL BLOCKfMOON SYMBOLgWITH FACEoOUTER JOINkSTOPfWIDTH AMPERSANDiPOSTROPHEjSTERISK",
  "FULLWIDTH BROKEN BARkCENT SIGNiIRCUMFLEX ACCENTqOLONdMMAbERCIAL ATnDIGIT EIGHTfFIVEdOUReNINE",
  "FULLWIDTH DIGIT ONEdSEVENeIXdTHREEeWOdZEROjOLLAR SIGNlEQUALS SIGNkXCLAMATION MARKqFULL STOP",
  "FULLWIDTH GRAVE ACCENTkEATER-THAN SIGNrHYPHEN-MINUSmLATIN CAPITAL LETTER AbBbCbDbEbFbGbHbIbJbK",
  "FULLWIDTH LATIN CAPITAL LETTER LbMbNbObPbQbRbSbTbUbVbWbXbYbZqSMALL LETTER AbBbCbDbEbFbGbHbIbJ",
  "FULLWIDTH LATIN SMALL LETTER KbLbMbNbObPbQbRbSbTbUbVbWbXbYbZtEFT CURLY BRACKETnPARENTHESIS",
  "FULLWIDTH LEFT SQUARE BRACKEToWHITE PARENTHESISuSS-THAN SIGNnOW LINEiMACRONgNOT SIGN",
  "FULLWIDTH NUMBER SIGNlPERCENT SIGNlLUS SIGNiOUND SIGNkQUESTION MARKlOTATION MARK",
  "FULLWIDTH REVERSE SOLIDUSoIGHT CURLY BRACKETnPARENTHESISlSQUARE BRACKEToWHITE PARENTHESIS",
  "FULLWIDTH SEMICOLONiOLIDUShTILDEfVERTICAL LINEnWON SIGNiYEN SIGNqNCTION APPLICATIONrERAL URN",
  "FUSEdVS1b2b3b4eGAME DIEgRLICfEARa WITH HANDLESiOUT HUBoM STONEgINIeNIEdOMETRIC PROPORTION",
  "GEOMETRICALLY EQUAL TOfIVALENT TOyRGIAN CAPITAL LETTER AENcNcBANdCANcHARcINdILdDONdENcGANcHAN",
  "GEORGIAN CAPITAL LETTER HAEbRcEbIEcOEdINcJHANdILdKANcHAReLASdMANdNARdONcPARcHAReQARdRAEdSAN",
  "GEORGIAN CAPITAL LETTER SHINeTANbRdUNcVINdWEcXANdYNcZENcHARtLETTER AENcINcNcBANdCANcHARcINdIL",
  "GEORGIAN LETTER DONdELIFIeNcFIcGANcHANeHAEbRaD SIGNiEbIEcOEdINcJHANdILdKANcHAReLABIAL SIGNjS",
  "GEORGIAN LETTER MANdNARdONcPARcHAReQARdRAEdSANcHINeTANbRcURNED GANkUNcVINdWEcXANdYNcZENcHAR",
  "GEORGIAN MTAVRULI CAPITAL LETTER AENcINcNcBANdCANcHARcINdILdDONdELIFIeNcFIcGANcHANeHAEbR",
  "GEORGIAN MTAVRULI CAPITAL LETTER HARD SIGNiEbIEcOEdINcJHANdILdKANcHAReLABIAL SIGNjSdMANdNARdON",
  "GEORGIAN MTAVRULI CAPITAL LETTER PARcHAReQARdRAEdSANcHINeTANbRcURNED GANkUNcVINdWEcXANdYNcZEN",
  "GEORGIAN MTAVRULI CAPITAL LETTER ZHAR",
  "GEORGIAN PARAGRAPH SEPARATORtSMALL LETTER AENcNcBANdCANcHARcINdILdDONdENcGANcHANeHAEbRcEbIEcOE",
  "GEORGIAN SMALL LETTER INcJHANdILdKANcHAReLASdMANdNARdONcPARcHAReQARdRAEdSANcHINeTANbRdUNcVIN",
  "GEORGIAN SMALL LETTER WEcXANdYNcZENcHARyRMAN PENNY SIGNpTA MARKiHOSTeIMEL SYMBOLkRAFFE FACEjL",
  "GIRLS SYMBOLlLAGOLITIC CAPITAL LETTER AZUdBIG YUSgUKYeCAUDATE CHRIVInHRIVIgDJERVIfOBROeZELO",
  "GLAGOLITIC CAPITAL LETTER FITAdRITUfGLAGOLIhHERUeIaNITIAL IZHElOTATED BIG YUShSMALL YUSqZHE",
  "GLAGOLITIC CAPITAL LETTER IZHITSAhKAKOeLATINATE MYSLITEpJUDIJEhMYSLITEhNASHIfONUcTUdPEbOKOJI",
  "GLAGOLITIC CAPITAL LETTER RITSIfSHAbTAaPICgLOVOeMALL YUSa WITH TAILsPIDERY HAkTROKUTASTI AlSI",
  "GLAGOLITIC CAPITAL LETTER TVRIDOgUKUdVEDEeYATIdERIbUcSTUeObUcZEMLJAfHIVETEwSMALL LETTER AZU",
  "GLAGOLITIC SMALL LETTER BIG YUSgUKYeCAUDATE CHRIVInHRIVIgDJERVIfOBROeZELOfFITAdRITUfGLAGOLI",
  "GLAGOLITIC SMALL LETTER HERUeIaNITIAL IZHElOTATED BIG YUShSMALL YUSqZHEbITSAhKAKO",
  "GLAGOLITIC SMALL LETTER LATINATE MYSLITEpJUDIJEhMYSLITEhNASHIfONUcTUdPEbOKOJIgRITSIfSHAbTAaPIC",
  "GLAGOLITIC SMALL LETTER SLOVOeMALL YUSa WITH TAILsPIDERY HAkTROKUTASTI AlSIcVRIDOgUKUdVEDE",
  "GLAGOLITIC SMALL LETTER YATIdERIbUcSTUeObUcZEMLJAfHIVETE",
  "GLASS OF MILKlEICH STARKkOBE WITH MERIDIANSrVESdWING STARlOAL NETfTcGGLESfLFEReRILLA",
  "GOTHIC LETTER AHSAdIHVUSgBAIRKANhDAGSeEISdFAIHUfGIBAeHAGLdWAIRfIGGWSeUJAeJERdKUSMAfLAGUSfMANNA",
  "GOTHIC LETTER NAUTHSfINE HUNDREDiTYgOTHALfPAIRTHRAiQAIRTHRAiRAIDAfSAUILfTEIWSeHIUTHgURUSeWINJA",
  "GRADUATION CAPlNTHA AU LENGTH MARKoLETTER AaAbIbUcBAbHAdCAbHAdDAbDAbHAdHAdEEcGAbHAdHAcIaIcJA",
  "GRANTHA LETTER JHAdKAbHAdLAbLAdMAcNAbGAcNAcYAdOOcPAbHAdRAcSAbHAcSAdTAbHAcTAbHAeUaUcVA",
  "GRANTHA LETTER VEDIC ANUSVARAiDOUBLE ANUSVARAuOCALIC LaLcRaRkYAjOMcSIGN ANUSVARAhVAGRAHA",
  "GRANTHA SIGN CANDRABINDUkOMBINING ANUSVARA ABOVEyNUKTAfPLUTAfVIRAMAeSARGAmVOWEL SIGN AAbIbUcEE",
  "GRANTHA VOWEL SIGN IaIcOOcUaUcVOCALIC LaLcRaR",
  "GRAPESdVE ACCENTkEATER-THAN ABOVE DOUBLE-LINE EQUAL ABOVE LESS-THAN",
  "GREATER-THAN ABOVE LESS-THAN ABOVE DOUBLE-LINE EQUAL",
  "GREATER-THAN ABOVE RIGHTWARDS ARROWqSIMILAR ABOVE LESS-THANpOR EQUAL",
  "GREATER-THAN ABOVE SLANTED EQUAL ABOVE LESS-THAN ABOVE SLANTED EQUAL",
  "GREATER-THAN AND NOT APPROXIMATEpSINGLE-LINE NOT EQUAL TO",
  "GREATER-THAN BESIDE LESS-THANpUT NOT EQUAL TOfIVALENT TOvCLOSED BY CURVEa ABOVE SLANTED EQUAL",
  "GREATER-THAN EQUAL TO OR LESS-THANvOR APPROXIMATElEQUAL TOfIVALENT TOnLESS-THAN",
  "GREATER-THAN OR SLANTED EQUAL TOa WITH DOT ABOVEa LEFTkINSIDE",
  "GREATER-THAN OVER EQUAL TOjLAPPING LESS-THANvSIGNeWITH CIRCLE INSIDEnDOTdQUESTION MARK ABOVE",
  "GREEK ACROPHONIC ATTIC FIFTYa STATERShTALENTSgHOUSANDa STATERSuVEa HUNDREDa STATERShTALENTS",
  "GREEK ACROPHONIC ATTIC FIVE STATERShTALENTSgHOUSANDa TALENTSvONE DRACHMAhHALFdUNDRED STATERS",
  "GREEK ACROPHONIC ATTIC ONE HUNDRED TALENTSpQUARTERhTHOUSAND STATERShTALENTSuTEN MNASeSTATERS",
  "GREEK ACROPHONIC ATTIC TEN TALENTSgHOUSAND STATERS",
  "GREEK ACROPHONIC CARYSTIAN FIVE HUNDREDvYRENAIC TWO DRACHMASvDELPHIC FIVE MNAS",
  "GREEK ACROPHONIC EPIDAUREAN FIVE HUNDREDmTWOa DRACHMASxHERAEUM ONE PLETHRONrMIONIAN FIFTYfONE",
  "GREEK ACROPHONIC HERMIONIAN TENoMESSENIAN TENnNAXIAN FIVE HUNDREDtSTRATIAN FIFTY MNAS",
  "GREEK ACROPHONIC THESPIAN FIFTYdVE HUNDREDhTHOUSANDnONEa HUNDREDhTHOUSANDmTENcHIRTY",
  "GREEK ACROPHONIC THESPIAN THREE HUNDREDmWOlROEZENIAN FIFTYa ALTERNATE FORMsVEa HUNDREDmTEN",
  "GREEK ACROPHONIC TROEZENIAN TEN ALTERNATE FORM",
  "GREEK ANO TELEIAjROURA SIGNjTABE SIGNlBETA SYMBOLlCAPITAL DOTTED LUNATE SIGMA SYMBOL",
  "GREEK CAPITAL KAI SYMBOLkLETTER ALPHAa WITH DASIAa AND OXIAa AND PROSGEGRAMMENIxPERISPOMENI",
  "GREEK CAPITAL LETTER ALPHA WITH DASIA AND PERISPOMENI AND PROSGEGRAMMENI",
  "GREEK CAPITAL LETTER ALPHA WITH DASIA AND PROSGEGRAMMENIoVARIAa AND PROSGEGRAMMENI",
  "GREEK CAPITAL LETTER ALPHA WITH MACRONgOXIAePROSGEGRAMMENInSILIa AND OXIAa AND PROSGEGRAMMENI",
  "GREEK CAPITAL LETTER ALPHA WITH PSILI AND PERISPOMENIa AND PROSGEGRAMMENI",
  "GREEK CAPITAL LETTER ALPHA WITH PSILI AND PROSGEGRAMMENIoVARIAa AND PROSGEGRAMMENI",
  "GREEK CAPITAL LETTER ALPHA WITH TONOSfVARIAeRACHYqRCHAIC SAMPInBETAeCHIdDELTAfEPSILON",
  "GREEK CAPITAL LETTER EPSILON WITH DASIAa AND OXIAeVARIApOXIAePSILIa AND OXIAeVARIApTONOSfVARIA",
  "GREEK CAPITAL LETTER ETAa WITH DASIAa AND OXIAa AND PROSGEGRAMMENIxPERISPOMENI",
  "GREEK CAPITAL LETTER ETA WITH DASIA AND PERISPOMENI AND PROSGEGRAMMENI",
  "GREEK CAPITAL LETTER ETA WITH DASIA AND PROSGEGRAMMENIoVARIAa AND PROSGEGRAMMENI",
  "GREEK CAPITAL LETTER ETA WITH OXIAePROSGEGRAMMENInSILIa AND OXIAa AND PROSGEGRAMMENI",
  "GREEK CAPITAL LETTER ETA WITH PSILI AND PERISPOMENIa AND PROSGEGRAMMENI",
  "GREEK CAPITAL LETTER ETA WITH PSILI AND PROSGEGRAMMENIoVARIAa AND PROSGEGRAMMENI",
  "GREEK CAPITAL LETTER ETA WITH TONOSfVARIAoGAMMAfHETAeIOTAa WITH DASIAa AND OXIAePERISPOMENI",
  "GREEK CAPITAL LETTER IOTA WITH DASIA AND VARIAoIALYTIKAjMACRONgOXIAePSILIa AND OXIA",
  "GREEK CAPITAL LETTER IOTA WITH PSILI AND PERISPOMENIlVARIApTONOSfVARIAeRACHYqKAPPAfLAMDAfMUcNU",
  "GREEK CAPITAL LETTER OMEGAa WITH DASIAa AND OXIAa AND PROSGEGRAMMENIxPERISPOMENI",
  "GREEK CAPITAL LETTER OMEGA WITH DASIA AND PERISPOMENI AND PROSGEGRAMMENI",
  "GREEK CAPITAL LETTER OMEGA WITH DASIA AND PROSGEGRAMMENIoVARIAa AND PROSGEGRAMMENI",
  "GREEK CAPITAL LETTER OMEGA WITH OXIAePROSGEGRAMMENInSILIa AND OXIAa AND PROSGEGRAMMENI",
  "GREEK CAPITAL LETTER OMEGA WITH PSILI AND PERISPOMENIa AND PROSGEGRAMMENI",
  "GREEK CAPITAL LETTER OMEGA WITH PSILI AND PROSGEGRAMMENIoVARIAa AND PROSGEGRAMMENI",
  "GREEK CAPITAL LETTER OMEGA WITH TONOSfVARIAoICRONa WITH DASIAa AND OXIAeVARIApOXIAePSILI",
  "GREEK CAPITAL LETTER OMICRON WITH PSILI AND OXIAeVARIApTONOSfVARIAsPAMPHYLIAN DIGAMMArHIcIbSI",
  "GREEK CAPITAL LETTER RHOa WITH DASIAoSANcHOcIGMAfTAUcHETAfUPSILONa WITH DASIAa AND OXIA",
  "GREEK CAPITAL LETTER UPSILON WITH DASIA AND PERISPOMENIlVARIAoIALYTIKAjMACRONgOXIAeTONOSfVARIA",
  "GREEK CAPITAL LETTER UPSILON WITH VRACHYtXIcYOTdZETAkUNATE SIGMA SYMBOL",
  "GREEK CAPITAL REVERSED DOTTED LUNATE SIGMA SYMBOL",
  "GREEK CAPITAL REVERSED LUNATE SIGMA SYMBOL",
  "GREEK CAPITAL THETA SYMBOLuDASIAa AND OXIAePERISPOMENIlVARIAoIALYTIKA AND OXIAePERISPOMENI",
  "GREEK DIALYTIKA AND VARIAjTONOSoRACHMA SIGNmFIVE OBOLS SIGNoOUR OBOLS SIGNpGRAMMA SIGN",
  "GREEK INDICTION SIGNmSTRUMENTAL NOTATION SYMBOL-1a1b2b3b4b7b8b9c2a3b4b5b6b7b9c30b2b6b7b8b9c4a0",
  "GREEK INSTRUMENTAL NOTATION SYMBOL-42b3b5b7b8b9c5a0b1b2b3b4c7b8",
  "GREEK KAI SYMBOLiPPA SYMBOLlORONISgYATHOS BASE SIGNrLETTER ARCHAIC KOPPAnDIGAMMAhKOPPAfSAMPI",
  "GREEK LETTER SMALL CAPITAL GAMMAfLAMDAfOMEGAfPIbSIdRHOqTIGMAgYOTjITRA SIGNjOWER NUMERAL SIGN",
  "GREEK LUNATE EPSILON SYMBOLoSIGMA SYMBOLtMETRETES SIGNmUSICAL LEIMMAoNUMERAL SIGNmOBOL SIGN",
  "GREEK ONE HALF SIGNa ALTERNATE FORMyQUARTER SIGNpUNKIA SIGNkXIAePERISPOMENIkHI SYMBOLjI SYMBOL",
  "GREEK PROSGEGRAMMENInSILIa AND OXIAePERISPOMENIlVARIApQUESTION MARK",
  "GREEK REVERSED LUNATE EPSILON SYMBOL",
  "GREEK RHO SYMBOLgWITH STROKE SYMBOLwSINUSOID SIGNmMALL DOTTED LUNATE SIGMA SYMBOL",
  "GREEK SMALL LETTER ALPHAa WITH DASIAa AND OXIAa AND YPOGEGRAMMENIwPERISPOMENI",
  "GREEK SMALL LETTER ALPHA WITH DASIA AND PERISPOMENI AND YPOGEGRAMMENI",
  "GREEK SMALL LETTER ALPHA WITH DASIA AND VARIAa AND YPOGEGRAMMENIxYPOGEGRAMMENIxMACRONgOXIA",
  "GREEK SMALL LETTER ALPHA WITH OXIA AND YPOGEGRAMMENIwPERISPOMENIa AND YPOGEGRAMMENI",
  "GREEK SMALL LETTER ALPHA WITH PSILIa AND OXIAa AND YPOGEGRAMMENIwPERISPOMENI",
  "GREEK SMALL LETTER ALPHA WITH PSILI AND PERISPOMENI AND YPOGEGRAMMENI",
  "GREEK SMALL LETTER ALPHA WITH PSILI AND VARIAa AND YPOGEGRAMMENIxYPOGEGRAMMENIxTONOSfVARIA",
  "GREEK SMALL LETTER ALPHA WITH VARIA AND YPOGEGRAMMENIwRACHYgYPOGEGRAMMENIxRCHAIC KOPPAfSAMPI",
  "GREEK SMALL LETTER BETAeCHIdDELTAeIGAMMAhEPSILONa WITH DASIAa AND OXIAeVARIApOXIAePSILI",
  "GREEK SMALL LETTER EPSILON WITH PSILI AND OXIAeVARIApTONOSfVARIArTAa WITH DASIAa AND OXIA",
  "GREEK SMALL LETTER ETA WITH DASIA AND OXIA AND YPOGEGRAMMENIwPERISPOMENIa AND YPOGEGRAMMENI",
  "GREEK SMALL LETTER ETA WITH DASIA AND VARIAa AND YPOGEGRAMMENIxYPOGEGRAMMENIxOXIA",
  "GREEK SMALL LETTER ETA WITH OXIA AND YPOGEGRAMMENIwPERISPOMENIa AND YPOGEGRAMMENI",
  "GREEK SMALL LETTER ETA WITH PSILIa AND OXIAa AND YPOGEGRAMMENIwPERISPOMENIa AND YPOGEGRAMMENI",
  "GREEK SMALL LETTER ETA WITH PSILI AND VARIAa AND YPOGEGRAMMENIxYPOGEGRAMMENIxTONOSfVARIA",
  "GREEK SMALL LETTER ETA WITH VARIA AND YPOGEGRAMMENIxYPOGEGRAMMENIwFINAL SIGMAlGAMMAfHETAeIOTA",
  "GREEK SMALL LETTER IOTA WITH DASIAa AND OXIAePERISPOMENIlVARIAoIALYTIKAa AND OXIAePERISPOMENI",
  "GREEK SMALL LETTER IOTA WITH DIALYTIKA AND TONOSfVARIAtMACRONgOXIAePERISPOMENIkSILIa AND OXIA",
  "GREEK SMALL LETTER IOTA WITH PSILI AND PERISPOMENIlVARIApTONOSfVARIAeRACHYqKAPPAeOPPAfLAMDAfMU",
  "GREEK SMALL LETTER NUcOMEGAa WITH DASIAa AND OXIAa AND YPOGEGRAMMENIwPERISPOMENI",
  "GREEK SMALL LETTER OMEGA WITH DASIA AND PERISPOMENI AND YPOGEGRAMMENI",
  "GREEK SMALL LETTER OMEGA WITH DASIA AND VARIAa AND YPOGEGRAMMENIxYPOGEGRAMMENIxOXIA",
  "GREEK SMALL LETTER OMEGA WITH OXIA AND YPOGEGRAMMENIwPERISPOMENIa AND YPOGEGRAMMENI",
  "GREEK SMALL LETTER OMEGA WITH PSILIa AND OXIAa AND YPOGEGRAMMENIwPERISPOMENI",
  "GREEK SMALL LETTER OMEGA WITH PSILI AND PERISPOMENI AND YPOGEGRAMMENI",
  "GREEK SMALL LETTER OMEGA WITH PSILI AND VARIAa AND YPOGEGRAMMENIxYPOGEGRAMMENIxTONOSfVARIA",
  "GREEK SMALL LETTER OMEGA WITH VARIA AND YPOGEGRAMMENIxYPOGEGRAMMENIwICRONa WITH DASIA",
  "GREEK SMALL LETTER OMICRON WITH DASIA AND OXIAeVARIApOXIAePSILIa AND OXIAeVARIApTONOSfVARIA",
  "GREEK SMALL LETTER PAMPHYLIAN DIGAMMArHIcIbSIdRHOa WITH DASIAfPSILIoSAMPIdNcHOcIGMAeTIGMAgTAU",
  "GREEK SMALL LETTER THETAfUPSILONa WITH DASIAa AND OXIAePERISPOMENIlVARIAoIALYTIKAa AND OXIA",
  "GREEK SMALL LETTER UPSILON WITH DIALYTIKA AND PERISPOMENIlTONOSfVARIAtMACRONgOXIAePERISPOMENI",
  "GREEK SMALL LETTER UPSILON WITH PSILIa AND OXIAePERISPOMENIlVARIApTONOSfVARIAeRACHYtXIcZETA",
  "GREEK SMALL REVERSED DOTTED LUNATE SIGMA SYMBOL",
  "GREEK SMALL REVERSED LUNATE SIGMA SYMBOL",
  "GREEK SUBSCRIPT SMALL LETTER BETAeCHIdGAMMAfPHIdRHOzYMBOL TAU RHOoTALENT SIGNkHETA SYMBOL",
  "GREEK THREE OBOLS SIGNkQUARTERS SIGNsONOSeRYBLION BASE SIGNrWO OBOLS SIGNkTHIRDS SIGN",
  "GREEK UPSILON WITH ACUTE AND HOOK SYMBOLvDIAERESIS AND HOOK SYMBOLzHOOK SYMBOLyVARIA",
  "GREEK VOCAL NOTATION SYMBOL-1a0b1b2b3b4b5b6b7b8b9c2a0b1b2b3b4c3b4b5a0b1b2b3b4c6b7b8b9",
  "GREEK XESTES SIGNlYEAR SIGNiPOGEGRAMMENInZERO SIGNlN APPLEfBOOKeHEARTfSALADjIMACING FACE",
  "GRINNING CAT FACE WITH SMILING EYES",
  "GRINNING FACEa WITH ONE LARGE AND ONE SMALL EYE",
  "GRINNING FACE WITH SMILING EYESlTAR EYES",
  "GROUP MARKeSEPARATORmWING HEARTmSbUARANI SIGNiDSMANhIDE DOGgTAReJARATI ABBREVIATION SIGN",
  "GUJARATI DIGIT EIGHTfFIVEdOUReNINEeONEdSEVENeIXdTHREEeWOdZEROkLETTER AaAbIbUcBAbHAdCAbHAdDAbDA",
  "GUJARATI LETTER DDHAdHAdEbGAbHAdHAcIaIcJAbHAdKAbHAdLAbLAdMAcNAbGAcNAcYAdObPAbHAdRAcSAbHAcSAdTA",
  "GUJARATI LETTER THAcTAbHAeUaUcVAbOCALIC LaLcRaRkYAcZHAkOMcRUPEE SIGNkSIGN ANUSVARAhVAGRAHA",
  "GUJARATI SIGN CANDRABINDUkIRCLE NUKTA ABOVEsMADDAHgNUKTAfSHADDAfUKUNfTHREE-DOT NUKTA ABOVE",
  "GUJARATI SIGN TWO-CIRCLE NUKTA ABOVEwVIRAMAeSARGAmVOWEL CANDRA EbOiSIGN AAbIbUcCANDRA EbOiEbI",
  "GUJARATI VOWEL SIGN IIcObUaUcVOCALIC LaLcRaR",
  "GUNJALA GONDI DIGIT EIGHTfFIVEdOUReNINEeONEdSEVENeIXdTHREEeWOdZEROkLETTER AaAbIbUcBAbHAdCAbHA",
  "GUNJALA GONDI LETTER DAbDAbHAdHAdEEcGAbHAdHAcIaIcJAbHAdKAbHAdLAbLAdMAcNAbGAdOOcPAbHAdRAcSAcTA",
  "GUNJALA GONDI LETTER THAcTAbHAeUaUcVAcYAjOMcSIGN ANUSVARAiVISARGAmVIRAMAfOWEL SIGN AAbIbUcEEcI",
  "GUNJALA GONDI VOWEL SIGN IIcOOcUaUzRMUKHI ABBREVIATION SIGNqDDAKfDIGIT EIGHTfFIVEdOUReNINEeONE",
  "GURMUKHI DIGIT SEVENeIXdTHREEeWOdZEROkEK ONKARiIRIdLETTER AaAbIbUcBAbHAdCAbHAdDAbDAbHAdHAdEE",
  "GURMUKHI LETTER FAcGAbHAbHAeHAcIaIcJAbHAdKAbHAbHAeLAbLAdMAcNAbGAcNAcYAdOOcPAbHAdRAbRAdSAbHAdTA",
  "GURMUKHI LETTER THAcTAbHAeUaUcVAcYAcZAjSIGN ADAK BINDIkBINDIfNUKTAfUDAATfVIRAMAeSARGAhYAKASH",
  "GURMUKHI TIPPIfURAdVOWEL SIGN AAbIbUcEEcIaIcOOcUaUwHADESdIR SPACEgCUTfLFWIDTH BLACK SQUARE",
  "HALFWIDTH DOWNWARDS ARROWpFORMS LIGHT VERTICALuHANGUL FILLERgLETTER AaEcCHIEUCHgIEUCfEaObU",
  "HALFWIDTH HANGUL LETTER HIEUHfIaEUNGfKHIEUKHgIYEOKa-SIOSlMIEUMfNIEUNa-CIEUCfHIEUHlOaEcPHIEUPH",
  "HALFWIDTH HANGUL LETTER PIEUPa-SIOSkRIEULa-HIEUHfKIYEOKgMIEUMfPHIEUPHgIEUPfSIOSeTHIEUTHnSIOS",
  "HALFWIDTH HANGUL LETTER SSANGCIEUCfKIYEOKgPIEUPfSIOSeTIKEUTlTHIEUTHgIKEUTgUbWAaEcEaOcIcYAaEcE",
  "HALFWIDTH HANGUL LETTER YEOcIbObUqIDEOGRAPHIC COMMAfFULL STOPvKATAKANA LETTER AbEbHAbEbIbObUcI",
  "HALFWIDTH KATAKANA LETTER KAbEbIbObUcMAbEbIbObUcNaAbEbIbObUcObRAbEbIbObUcSAbEbIbMALL AbEbIbO",
  "HALFWIDTH KATAKANA LETTER SMALL TUcUbYAbObUhObUcTAbEbIbObUcUbWAbOcYAbObUjMIDDLE DOT",
  "HALFWIDTH KATAKANA SEMI-VOICED SOUND MARKwVOICED SOUND MARKs-HIRAGANA PROLONGED SOUND MARK",
  "HALFWIDTH LEFT CORNER BRACKETpWARDS ARROWpRIGHT CORNER BRACKETpWARDS ARROWqUPWARDS ARROW",
  "HALFWIDTH WHITE CIRCLEuMBURGERgMERa AND PICKeSICKLEgWRENCHoSAbTER FACE",
  "HAND WITH INDEX AND MIDDLE FINGERS CROSSED",
  "HAND WITH INDEX FINGER AND THUMB CROSSED",
  "HANDBAGbLLeSHAKEgGUL CHOSEONG CEONGCHIEUMCHIEUCHgIEUCfSIOSdSANGCIEUCfSIOStHIEUCHa-HIEUH",
  "HANGUL CHOSEONG CHIEUCH-KHIEUKHmTUEUMCHIEUCHgIEUCfSIOSdSANGCIEUCfSIOSqIEUCa-IEUNGlFILLERgHIEUH",
  "HANGUL CHOSEONG HIEUH-SIOSkIEUNGa-CHIEUCHgIEUCfHIEUHfKIYEOKgMIEUMfPANSIOSgHIEUPHgIEUPfRIEUL",
  "HANGUL CHOSEONG IEUNG-SIOSeTHIEUTHgIKEUTmKAPYEOUNMIEUMfPHIEUPHgIEUPfRIEULfSSANGPIEUPrHIEUKH",
  "HANGUL CHOSEONG KIYEOKa-TIKEUTnMIEUMa-KIYEOKgPIEUPfSIOSeTIKEUTmNIEUNa-CIEUCfHIEUHfKIYEOKgPIEUP",
  "HANGUL CHOSEONG NIEUN-SIOSeTIKEUTmPANSIOSgHIEUPHa-HIEUHfPIEUPmIEUPa-CHIEUCHgIEUCfHIEUHfKHIEUKH",
  "HANGUL CHOSEONG PIEUP-KIYEOKgNIEUNfPHIEUPHhSIOSa-CIEUCfKIYEOKgPIEUPfTHIEUTHgIKEUTkSANGSIOS",
  "HANGUL CHOSEONG PIEUP-THIEUTHgIKEUTmRIEULa-CIEUCfHIEUHfKAPYEOUNPIEUPmHIEUKHgIYEOKgMIEUMfNIEUN",
  "HANGUL CHOSEONG RIEUL-PIEUPfSIOSdSANGKIYEOKgPIEUPfTIKEUTlTIKEUTmSIOSa-CHIEUCHgIEUCfHIEUHfIEUNG",
  "HANGUL CHOSEONG SIOS-KHIEUKHgIYEOKgMIEUMfNIEUNfPHIEUPHgIEUPa-KIYEOKmRIEULfSSANGSIOSjTHIEUTH",
  "HANGUL CHOSEONG SIOS-TIKEUTkSANGCIEUCa-HIEUHlHIEUHfIEUNGfKIYEOKgNIEUNfPIEUPfRIEULfSIOSa-PIEUP",
  "HANGUL CHOSEONG SSANGTHIEUTHgIKEUTgYEORINHIEUHqTHIEUTHgIKEUTa-CIEUCfKIYEOKgMIEUMfPIEUPfRIEUL",
  "HANGUL CHOSEONG TIKEUT-SIOSlYEORINHIEUHjSIEUNGrDOUBLE DOT TONE MARKuFILLERgJONGSEONG CHIEUCH",
  "HANGUL JONGSEONG CIEUCa-PIEUPfSSANGPIEUPqHIEUHa-MIEUMfNIEUNfPIEUPfRIEULlIEUNGa-KHIEUKHgIYEOK",
  "HANGUL JONGSEONG IEUNG-SSANGKIYEOKrKAPYEOUNMIEUMfPHIEUPHgIEUPfRIEULmHIEUKHgIYEOKa-CHIEUCH",
  "HANGUL JONGSEONG KIYEOK-HIEUHfKHIEUKHhNIEUNfPIEUPfRIEULfSIOSa-KIYEOKsMIEUMa-CHIEUCHgIEUCfHIEUH",
  "HANGUL JONGSEONG MIEUM-KIYEOKgNIEUNfPANSIOSgIEUPa-SIOSkRIEULfSIOSdSANGNIEUNfSIOSpNIEUN",
  "HANGUL JONGSEONG NIEUN-CHIEUCHgIEUCfHIEUHfKIYEOKgPANSIOShRIEULfSIOSeTHIEUTHgIKEUTmPANSIOS",
  "HANGUL JONGSEONG PANSIOS-KAPYEOUNPIEUPnPIEUPmHIEUPHa-PIEUPfSIOSeTHIEUTHoIEUPa-CHIEUCHgIEUC",
  "HANGUL JONGSEONG PIEUP-HIEUHfMIEUMfPHIEUPHhRIEULa-PHIEUPHnSIOSa-TIKEUTlTIKEUTmRIEULa-HIEUH",
  "HANGUL JONGSEONG RIEUL-KAPYEOUNPIEUPmHIEUKHgIYEOKa-HIEUHfSIOSlMIEUMa-HIEUHfKIYEOKgSIOSkNIEUN",
  "HANGUL JONGSEONG RIEUL-PANSIOSgHIEUPHgIEUPa-HIEUHfPHIEUPHhSIOSeTIKEUTmSIOSdSANGKIYEOKgSIOS",
  "HANGUL JONGSEONG RIEUL-THIEUTHgIKEUTa-HIEUHmYEORINHIEUHa-HIEUHpSIEUNGoSIOSa-CHIEUCHgIEUCfHIEUH",
  "HANGUL JONGSEONG SIOS-KAPYEOUNPIEUPmIYEOKgMIEUMfPANSIOSgIEUPfRIEULfTHIEUTHgIKEUTkSANGCIEUC",
  "HANGUL JONGSEONG SSANGIEUNGfKIYEOKgMIEUMfNIEUNfPIEUPfRIEULa-KHIEUKHnSIOSa-KIYEOKgTIKEUTlTIKEUT",
  "HANGUL JONGSEONG SSANGTIKEUT-PIEUPmYESIEUNGnTHIEUTHgIKEUTa-CHIEUCHgIEUCfKIYEOKgPIEUPfRIEUL",
  "HANGUL JONGSEONG TIKEUT-SIOSa-KIYEOKlTHIEUTHoYEORINHIEUHjSIEUNGa-HIEUHfKHIEUKHgIYEOKgMIEUM",
  "HANGUL JONGSEONG YESIEUNG-PANSIOShSIOSdSANGKIYEOK",
  "HANGUL JUNGSEONG Aa-EUcObUcEbRAEAa-AbEaOcIbUhEaOa-EUcObUdUa-AbEaObUcObUeFILLERgIa-AaRAEAfEUcI",
  "HANGUL JUNGSEONG I-Oa-IdUbYAa-OcEcEaOcObUeOa-EaOcOa-IdUbYAaEcEaOeEcSSANGARAEAkUa-AaEcEO-EUfI-I",
  "HANGUL JUNGSEONG U-UbYEaOfWAaEcEaOcIcYAa-ObUbYOdEcEaOa-ObUbYAfIa-UdOa-AaEcEOcIbObYAaEcEOfUa-A",
  "HANGUL JUNGSEONG YU-AEcEaOcIbObUbYEaOqLETTER AaEbRAEAaEgCHIEUCHgIEUCfEaObUcHIEUHfIaEUNG",
  "HANGUL LETTER KAPYEOUNMIEUMfPHIEUPHgIEUPfSSANGPIEUPrHIEUKHgIYEOKa-SIOSlMIEUMa-PANSIOSgIEUP",
  "HANGUL LETTER MIEUM-SIOSkNIEUNa-CIEUCfHIEUHfPANSIOShSIOSeTIKEUTmOaEcPANSIOSgHIEUPHgIEUPa-CIEUC",
  "HANGUL LETTER PIEUP-KIYEOKgSIOSa-KIYEOKgTIKEUTlTHIEUTHgIKEUTmRIEULa-HIEUHfKIYEOKa-SIOSlMIEUM",
  "HANGUL LETTER RIEUL-PANSIOSgHIEUPHgIEUPa-SIOSkSIOSeTHIEUTHgIKEUTgYEORINHIEUHrSIOSa-CIEUC",
  "HANGUL LETTER SIOS-KIYEOKgNIEUNfPIEUPfTIKEUTkSANGCIEUCfHIEUHfIEUNGfKIYEOKgNIEUNfPIEUPfSIOS",
  "HANGUL LETTER SSANGTIKEUTlTHIEUTHgIKEUTgUbWAaEcEaOcIcYAaEcEaOaRINHIEUHjSIEUNGa-PANSIOShSIOSmI",
  "HANGUL LETTER YOa-IbYAaEfUa-IbYEaOnSINGLE DOT TONE MARKxZHOU NUMERAL EIGHTfFIVEdOUReNINEeONE",
  "HANGZHOU NUMERAL SEVENeIXdTENcHIRTYeREEeWENTYeOrIFI ROHINGYA DIGIT EIGHTfFIVEdOUReNINEeONE",
  "HANIFI ROHINGYA DIGIT SEVENeIXdTHREEeWOdZEROkLETTER AbBAcCAcDAbDAdFAcGAcHAcJAcKAbHAcINNA WAcYA",
  "HANIFI ROHINGYA LETTER LAcMAcNAbGAcYAdPAcRAbRAdSAbHAdTAbTAdVAcWAcYAcZAjMARK NA KHONNAjSAKIN",
  "HANIFI ROHINGYA SIGN HARBAHAYiTAHALAeNAcSSIkVOWEL AbEbIbObUuUNOO LETTER AbBAcDAcGAcHAcIbKAcLA",
  "HANUNOO LETTER MAcNAbGAdPAcRAcSAcTAcUbWAcYAjSIGN PAMUDPODnVOWEL SIGN IbU",
  "HAPPY PERSON RAISING ONE HAND",
  "HARD DISKhTCHING CHICKlRAN LETTER ALEPHeYNdBETHeDALETH-RESHlGIMELfHEaTHeKAPHeLAMEDHgMEMdNUNdPE",
  "HATRAN LETTER QOPHeSADHEdMEKHfHINeTAWcETHeWAWdYODHeZAYNlNUMBER FIVEeONEa HUNDREDlTENcWENTY",
  "HEADPHONEfSTONEa GRAVEYARD SYMBOLxR-NO-EVIL MONKEYpT DECORATIONkHANDSfWITH ARROWfRIBBON",
  "HEART WITH TIP ON THE LEFTxVY AMPERSAND ORNAMENTrRROW SHAFT WIDTH ONEa HALFeTHIRDjTWO THIRDS",
  "HEAVY ASTERISKiBALLOT XhLACK CURVED DOWNWARDS AND RIGHTWARDS ARROW",
  "HEAVY BLACK CURVED UPWARDS AND RIGHTWARDS ARROW",
  "HEAVY BLACK HEARTg-FEATHERED NORTH EAST ARROWqRIGHTWARDS ARROWqSOUTH EAST ARROW",
  "HEAVY CHECK MARKhVRON SNOWFLAKEqIRCLEa WITH CIRCLE INSIDEnSTROKE AND TWO DOTS ABOVE",
  "HEAVY CIRCLED SALTIREoONCAVE-POINTED BLACK RIGHTWARDS ARROW",
  "HEAVY DASHED TRIANGLE-HEADED RIGHTWARDS ARROW",
  "HEAVY DIVISION SIGNmOLLAR SIGNjUBLE COMMA QUOTATION MARK ORNAMENT",
  "HEAVY DOUBLE TURNED COMMA QUOTATION MARK ORNAMENT",
  "HEAVY DOWNWARDS ARROW WITH EQUILATERAL ARROWHEADvLARGE EQUILATERAL ARROWHEAD",
  "HEAVY EIGHT POINTED BLACK STARkPINWHEEL STARnRECTILINEAR BLACK STAR",
  "HEAVY EIGHT SPOKED ASTERISKpTEARDROP-SPOKED PROPELLER ASTERISK",
  "HEAVY EQUALS SIGNkXCLAMATION MARK ORNAMENTiSYMBOLxFIVE POINTED BLACK STARsSPOKED ASTERISK",
  "HEAVY FOUR BALLOON-SPOKED ASTERISK",
  "HEAVY GREEK CROSSlHEART EXCLAMATION MARK ORNAMENT",
  "HEAVY HORIZONTAL FILLpINTERROBANG ORNAMENTuLARGE CIRCLEkTIN CROSS",
  "HEAVY LEFT-POINTING ANGLE BRACKET ORNAMENTqQUOTATION MARK ORNAMENT",
  "HEAVY LEFTWARDS ARROW WITH EQUILATERAL ARROWHEADvLARGE EQUILATERAL ARROWHEAD",
  "HEAVY LIGATURE OPEN ET ORNAMENTyOW DOUBLE COMMA QUOTATION MARK ORNAMENT",
  "HEAVY LOW SINGLE COMMA QUOTATION MARK ORNAMENT",
  "HEAVY LOWER RIGHT-SHADOWED WHITE RIGHTWARDS ARROW",
  "HEAVY MINUS SIGNjULTIPLICATION XqNORTH EAST ARROWfPOINTING BUDdVINE LEAFxWEST POINTING BUD",
  "HEAVY NORTH WEST POINTING VINE LEAF",
  "HEAVY OPEN CENTRE CROSSqUTLINED BLACK STARsVAL WITH OVAL INSIDEvPLUS SIGN",
  "HEAVY RIGHT-POINTING ANGLE BRACKET ORNAMENTqQUOTATION MARK ORNAMENT",
  "HEAVY RIGHTWARDS ARROWa WITH EQUILATERAL ARROWHEADvLARGE EQUILATERAL ARROWHEAD",
  "HEAVY ROUND-TIPPED RIGHTWARDS ARROW",
  "HEAVY SALTIREfNS-SERIF INTERROBANG ORNAMENT",
  "HEAVY SCRIPT LIGATURE ET ORNAMENT",
  "HEAVY SINGLE COMMA QUOTATION MARK ORNAMENT",
  "HEAVY SINGLE TURNED COMMA QUOTATION MARK ORNAMENT",
  "HEAVY SIX POINTED BLACK STARsSPOKED ASTERISKsOUTH EAST ARROWfPOINTING BUDdVINE LEAF",
  "HEAVY SOUTH WEST POINTING BUDdVINE LEAF",
  "HEAVY SPARKLEhTEARDROP-SHANKED RIGHTWARDS ARROWxPOKED ASTERISKiPINWHEEL ASTERISK",
  "HEAVY TRIANGLE-HEADED RIGHTWARDS ARROW",
  "HEAVY TWELVE POINTED BLACK STARkPINWHEEL STAR",
  "HEAVY UPPER RIGHT-SHADOWED WHITE RIGHTWARDS ARROW",
  "HEAVY UPWARDS ARROW WITH EQUILATERAL ARROWHEADvLARGE EQUILATERAL ARROWHEAD",
  "HEAVY VERTICAL BARmWEDGE-TAILED RIGHTWARDS ARROW",
  "HEAVY WHITE CIRCLEgDOWN-POINTING TRIANGLEwSQUARElIDE-HEADED RIGHTWARDS ARROW",
  "HEBREW ACCENT ATNAH HAFUKHmDARGAeEHIeETNAHTAhGERESHa MUQDAMkSHAYIMjILUYeMAHAPAKHhERKHAa KEFULA",
  "HEBREW ACCENT MUNAHfOLEdPASHTAeZERfQADMAdRNEY PARAlREVIAfSEGOLeHALSHELETkTELISHA GEDOLAgQETANA",
  "HEBREW ACCENT TEVIReIPEHAgYERAH BEN YOMOmTIVfZAQEF GADOLfQATANjRQAeINORmLETTER ALEF",
  "HEBREW LETTER ALEF WITH MAPIQfPATAHfQAMATSoTERNATIVE AYINePLUS SIGNuYINeBETa WITH DAGESHgRAFE",
  "HEBREW LETTER DALETa WITH DAGESHrFINAL KAFa WITH DAGESHpMEMdNUNdPEa WITH DAGESHoTSADIlGIMEL",
  "HEBREW LETTER GIMEL WITH DAGESHrHEa WITH MAPIQlTdKAFa WITH DAGESHgRAFEnLAMEDa WITH DAGESHrMEM",
  "HEBREW LETTER MEM WITH DAGESHpNUNa WITH DAGESHpPEa WITH DAGESHgRAFEmQOFa WITH DAGESHpRESH",
  "HEBREW LETTER RESH WITH DAGESHqSAMEKHa WITH DAGESHrHINa WITH DAGESHa AND SHIN DOThIN DOT",
  "HEBREW LETTER SHIN WITH SHIN DOThIN DOTrTAVa WITH DAGESHoETa WITH DAGESHoSADIa WITH DAGESHrVAV",
  "HEBREW LETTER VAV WITH DAGESHgHOLAMoWIDE ALEFeDALETfFINAL MEMjHEcKAFdLAMEDfRESHeTAViYOD",
  "HEBREW LETTER YOD WITH DAGESHgHIRIQoZAYINa WITH DAGESHxIGATURE ALEF LAMEDkYIDDISH DOUBLE VAV",
  "HEBREW LIGATURE YIDDISH DOUBLE YODkVAV YODhYOD YOD PATAH",
  "HEBREW MARK LOWER DOTjMASORA CIRCLEnUPPER DOToPOINT DAGESH OR MAPIQpHATAF PATAHfQAMATSgSEGOL",
  "HEBREW POINT HIRIQeOLAMa HASER FOR VAVtJUDEO-SPANISH VARIKAuMETEGfPATAHfQAMATSa QATANlUBUTS",
  "HEBREW POINT RAFEeSEGOLeHEVAdIN DOThIN DOThTSEREkUNCTUATION GERESHdSHAYIMjMAQAFfNUN HAFUKHA",
  "HEBREW PUNCTUATION PASEQfSOF PASUQvYOD TRIANGLErDGEHOGgLICOPTERhLSCHREIBER PAUSE SYMBOL",
  "HELM SYMBOLhET WITH WHITE CROSSvNTAIGANA LETTER A-1b2b3bWOeE-1b2b3b4b5b6dHA-1a0b1c2b3b4b5b6b7",
  "HENTAIGANA LETTER HA-8b9dE-1b2b3b4b5b6b7dI-1b2b3b4b5b6b7dO-1b2b3b4b5b6b7b8dU-1b2b3eI-1b2b3b4",
  "HENTAIGANA LETTER KA-1a0b1c2b3b4b5b6b7b8b9bKEeE-1b2b3b4b5b6dI-1b2b3b4b5b6b7b8dO-1b2b3bKIeU-1b2",
  "HENTAIGANA LETTER KU-3b4b5b6b7eMA-1b2b3b4b5b6b7dE-1b2bMAeI-1b2b3b4b5b6b7dO-1b2b3b4b5b6dU-1b2b3",
  "HENTAIGANA LETTER MU-4eN-MU-MO-1b2iA-1b2b3b4b5b6b7b8b9dE-1b2b3b4b5b6bKOeI-1b2b3b4b5b6b7bTEeO-1",
  "HENTAIGANA LETTER NO-2b3b4b5dU-1b2b3eO-1b2b3dRA-1b2b3b4dE-1b2b3b4dI-1b2b3b4b5b6b7dO-1b2b3b4b5",
  "HENTAIGANA LETTER RO-6dU-1b2b3b4b5b6eSA-1b2b3b4b5b6b7b8dE-1b2b3b4b5dI-1b2b3b4b5b6dO-1b2b3b4b5",
  "HENTAIGANA LETTER SO-6b7dU-1b2b3b4b5b6b7b8eTA-1b2b3b4dE-1b2b3b4b5b6b7b8b9dI-1b2b3b4b5b6b7dO-1",
  "HENTAIGANA LETTER TO-2b3b4b5b6bRAeU-1b2b3b4bTOfU-1b2b3b4b5dWA-1b2b3b4b5dE-1b2b3b4dI-1b2b3b4b5",
  "HENTAIGANA LETTER WO-1b2b3b4b5b6b7eYA-1b2b3b4b5bYOeO-1b2b3b4b5b6dU-1b2b3b4uRB",
  "HERMITIAN CONJUGATE MATRIXyXAGRAM FOR ABUNDANCEiFTER COMPLETIONpPPROACHiBEFORE COMPLETION",
  "HEXAGRAM FOR BITING THROUGHnREAKTHROUGHmCOMING TO MEETmNFLICTfTEMPLATION",
  "HEXAGRAM FOR DARKENING OF THE LIGHTvECREASEgLIVERANCEjVELOPMENTkIFFICULTY AT THE BEGINNING",
  "HEXAGRAM FOR DISPERSIONjURATIONiENTHUSIASMkFELLOWSHIPjOLLOWINGjGATHERING TOGETHERrRACE",
  "HEXAGRAM FOR GREAT POSSESSIONiWEReREPONDERANCEnTAMINGmHOLDING TOGETHERqINCREASEgFLUENCE",
  "HEXAGRAM FOR INNER TRUTHiOCENCEjLIMITATIONkMODESTYfUTH CORNERSnOBSTRUCTIONkPPOSITIONhRESSION",
  "HEXAGRAM FOR PEACEeROGRESShUSHING UPWARDoRETREATeURNeVOLUTIONkSMALL PREPONDERANCEnTAMING",
  "HEXAGRAM FOR SPLITTING APARToTANDSTILLkTHE ABYSMAL WATERmRMYcOUSING THUNDERqCAULDRON",
  "HEXAGRAM FOR THE CLINGING FIREmREATIVE HEAVENpFAMILYgGENTLE WINDlJOYOUS LAKE",
  "HEXAGRAM FOR THE KEEPING STILL MOUNTAINwMARRYING MAIDENpRECEPTIVE EARTHpWANDERERhELLhREADING",
  "HEXAGRAM FOR WAITINGgORK ON THE DECAYEDtYOUTHFUL FOLLY",
  "HIBISCUSgGH BRIGHTNESS SYMBOLrOCTET PRESETmVOLTAGE SIGNn-HEELED SHOElSPEED TRAIN",
  "HIGH-SPEED TRAIN WITH BULLET NOSE",
  "HIKING BOOTjNDU TEMPLEkPPOPOTAMUSkRAGANA DIGRAPH YORImITERATION MARKoLETTER AaRCHAIC WUcYEkBA",
  "HIRAGANA LETTER BEbIbObUcDAbEbIbObUcEbGAbEbIbObUcHAbEbIbObUcIbKAbEbIbObUcMAbEbIbObUcNaAbEbIbO",
  "HIRAGANA LETTER NUcObPAbEbIbObUcRAbEbIbObUcSAbEbIbMALL AbEbIbKAbEcObTUcUbWAbEbIbOcYAbObUhObU",
  "HIRAGANA LETTER TAbEbIbObUcUbVUcWAbEbIbOcYAbObUcZAbEbIbObUjVOICED ITERATION MARK",
  "HISTORIC SITEmOCHOdLEbLOW QUILT SQUARE ORNAMENTa IN BLACK SQUARE",
  "HOMOTHETICiNEY POTeBEEgOKcPbRIZONTAL BARcLACK HEXAGONhOCTAGONnELLIPSISiLINE EXTENSION",
  "HORIZONTAL MALE WITH STROKE SIGNvONE EIGHTH BLOCK-1358e2b3b4b5b6b7sSCAN LINE-1b3b7b9lTAB KEY",
  "HORIZONTAL TABULATIONa SETdWITH JUSTIFICATION",
  "HORIZONTAL TRAFFIC LIGHTvSEa FACEeRACINGkSPITALgT BEVERAGEiDOGdPEPPERgSPRINGSiELdURGLASS",
  "HOURGLASS WITH FLOWING SANDySEa BUILDINGaSjWITH GARDENqRYVNIA SIGNlTaJbScUGGING FACE",
  "HUNDRED POINTS SYMBOLtSHED FACEjTcYGIEAePHENa BULLETgWITH DIAERESISp-MINUSgATION POINT",
  "HYPODIASTOLEkSTERESIS SYMBOLrI LOVE YOU HAND SIGNtCE CREAMeUBEeHOCKEY STICK AND PUCKvSKATE",
  "IDENTICAL TOa AND SLANTED PARALLELxWITH DOT ABOVEsFICATION CARD",
  "IDEOGRAPHIC ANNOTATION BOTTOM MARKlEARTH MARKkFIRST MARKjOUR MARKfTH MARKlHEAVEN MARK",
  "IDEOGRAPHIC ANNOTATION LINKING MARKmMAN MARKhIDDLE MARKlONE MARKiREVERSE MARKmSECOND MARK",
  "IDEOGRAPHIC ANNOTATION THIRD MARKiREE MARKjOP MARKhWO MARKtCLOSING MARKlOMMA",
  "IDEOGRAPHIC DEPARTING TONE MARKrSCRIPTION CHARACTER ABOVE TO BELOWfMIDDLE AND BELOW",
  "IDEOGRAPHIC DESCRIPTION CHARACTER FULL SURROUNDnLEFT TO MIDDLE AND RIGHTqRIGHTnOVERLAID",
  "IDEOGRAPHIC DESCRIPTION CHARACTER SURROUND FROM ABOVEfBELOWfLEFTdOWER LEFTkUPPER LEFTeRIGHT",
  "IDEOGRAPHIC ENTERING TONE MARKsFULL STOPjHALF FILL SPACEpITERATION MARKoLEVEL TONE MARK",
  "IDEOGRAPHIC NUMBER ZEROlRISING TONE MARKqSPACEfTALLY MARK FIVEdOUReONEdTHREEeWO",
  "IDEOGRAPHIC TELEGRAPH LINE FEED SEPARATOR SYMBOL",
  "IDEOGRAPHIC TELEGRAPH SYMBOL FOR APRILeUGUSTgDAY EIGHTaEENhLEVENgFIFTEENfVEdOURaTEENiNINEaTEEN",
  "IDEOGRAPHIC TELEGRAPH SYMBOL FOR DAY ONEdSEVENaTEENiIXaTEENhTENcHIRTEENdYa-ONEiREEeWELVEdNTY",
  "IDEOGRAPHIC TELEGRAPH SYMBOL FOR DAY TWENTY-EIGHTfFIVEdOUReNINEeONEdSEVENeIXdTHREEeWOiO",
  "IDEOGRAPHIC TELEGRAPH SYMBOL FOR DECEMBERiFEBRUARYiHOUR EIGHTaEENhLEVENgFIFTEENfVEdOURaTEEN",
  "IDEOGRAPHIC TELEGRAPH SYMBOL FOR HOUR NINEaTEENiONEdSEVENaTEENiIXaTEENhTENcHIRTEENgREEeWELVE",
  "IDEOGRAPHIC TELEGRAPH SYMBOL FOR HOUR TWENTYa-FOUReONEdTHREEeWOiOdZEROjJANUARYgULYcNEeMARCHdY",
  "IDEOGRAPHIC TELEGRAPH SYMBOL FOR NOVEMBERiOCTOBERhSEPTEMBER",
  "IDEOGRAPHIC VARIATION INDICATOR",
  "IMAGE OFa OR APPROXIMATELY EQUAL TO",
  "IMPaERIAL ARAMAIC LETTER ALEPHeYINeBETHeDALETHgGIMELfHEaTHeKAPHeLAMEDHgMEMdNUNdPEcQOPHeRESH",
  "IMPERIAL ARAMAIC LETTER SADHEdMEKHfHINeTAWcETHeWAWdYODHeZAYINmNUMBER ONEa HUNDREDhTHOUSANDmTEN",
  "IMPERIAL ARAMAIC NUMBER TEN THOUSANDlHREEeWENTYeOkSECTION SIGN",
  "INBOX TRAYiCOMING ENVELOPEmPLETE INFINITYqREASE FONT SIZE SYMBOLrS AShMENThDaEX",
  "INDEX POINTING AT THE VIEWERzIAN RUPEE SIGNnC SIYAQ ALTERNATE LAKH MARKtFRACTION ONE HALF",
  "INDIC SIYAQ FRACTION ONE QUARTERlTHREE QUARTERSxLAKH MARKjNUMBER ALTERNATE ONEdTEN THOUSANDlWO",
  "INDIC SIYAQ NUMBER EIGHTa HUNDREDhTHOUSANDjYa THOUSANDpFIFTYa THOUSANDmVEa HUNDREDhTHOUSAND",
  "INDIC SIYAQ NUMBER FORTYa THOUSANDmURa HUNDREDhTHOUSANDnKARORaANhLAKHaANgNINEa HUNDRED",
  "INDIC SIYAQ NUMBER NINE THOUSANDjTYa THOUSANDpONEa HUNDREDhTHOUSANDmPREFIXED EIGHTfFIVEdOUR",
  "INDIC SIYAQ NUMBER PREFIXED NINEeONEdSEVENeIXdTHREEeWOmSEVENa HUNDREDhTHOUSANDjTYa THOUSANDpIX",
  "INDIC SIYAQ NUMBER SIX HUNDREDhTHOUSANDjTYa THOUSANDoTENa THOUSANDlHIRTYa THOUSANDnREE",
  "INDIC SIYAQ NUMBER THREE HUNDREDhTHOUSANDnWENTYa THOUSANDnOa HUNDREDhTHOUSANDtPLACEHOLDER",
  "INDIC SIYAQ RUPEE MARKuFINITYa NEGATED WITH VERTICAL BAR",
  "INFORMATION DESK PERSONlSEPARATOR FOUReONEdTHREEeWOmOURCEqHIBIT ARABIC FORM SHAPING",
  "INHIBIT SYMMETRIC SWAPPINGyPUT SYMBOL FOR LATIN CAPITAL LETTERSpLETTERShSMALL LETTERStNUMBERS",
  "INPUT SYMBOL FOR SYMBOLSwSCRIPTIONAL PAHLAVI LETTER ALEPHfBETHeDALETHgGIMELfHEaTHeKAPHeLAMEDH",
  "INSCRIPTIONAL PAHLAVI LETTER MEM-QOPHiNUNdPEcSADHEdMEKHfHINeTAWcETHeWAW-AYIN-RESHnYODHeZAYIN",
  "INSCRIPTIONAL PAHLAVI NUMBER FOUReONEa HUNDREDhTHOUSANDmTENcHREEeWENTYeOqRTHIAN LETTER ALEPH",
  "INSCRIPTIONAL PARTHIAN LETTER AYINeBETHeDALETHgGIMELfHEaTHeKAPHeLAMEDHgMEMdNUNdPEcQOPHeRESH",
  "INSCRIPTIONAL PARTHIAN LETTER SADHEdMEKHfHINeTAWcETHeWAWdYODHeZAYINmNUMBER FOUReONEa HUNDRED",
  "INSCRIPTIONAL PARTHIAN NUMBER ONE THOUSANDmTENcHREEeWENTYeO",
  "INSERTION SYMBOLoTEGRALa AROUND A POINT OPERATORwVERAGE WITH SLASHsEXTENSION",
  "INTEGRAL WITH DOUBLE STROKEnINTERSECTIONmLEFTWARDS ARROW WITH HOOKzOVERBARhTIMES SIGNkUNDERBAR",
  "INTEGRAL WITH UNIONpRCALATEgIOR PRODUCTlLINEAR ANNOTATION ANCHORgSEPARATORjTERMINATOR",
  "INTERLOCKED FEMALE AND MALE SIGN",
  "INTERROBANGgSECTIONa ABOVE BAR ABOVE UNIONpUNIONlBESIDE AND JOINED WITH INTERSECTION",
  "INTERSECTION WITH DOTdLOGICAL ANDlOVERBARxVERSE BULLETgCHECK MARKfER BOARD FILL",
  "INVERSE DOWNWARDS ARROW WITH TIP LEFTWARDS",
  "INVERSE MEDIUM SHADEmWHITE CIRCLEpTED EXCLAMATION MARKqINTERROBANGlLAZY SfOW KAVYKA",
  "INVERTED LOW KAVYKA WITH KAVYKA ABOVE",
  "INVERTED OHM SIGNiPENTAGRAMjQUESTION MARKnUNDERTIEoISIBLE PLUSeSEPARATORjTIMESoZAKAYA LANTERN",
  "JACK-O-LANTERNmPANESE BANK SYMBOLlCASTLEgDOLLSfGOBLINgINDUSTRIAL STANDARD SYMBOL",
  "JAPANESE OGREePOST OFFICElSYMBOL FOR BEGINNER",
  "JARbVANESE CONSONANT SIGN CAKRAfKERETfPENGKALwDIGIT EIGHTfFIVEdOUReNINEeONEdSEVENeIXdTHREEeWO",
  "JAVANESE DIGIT ZEROkLEFT RERENGGANmTTER AaIcBAa MURDAiCAa MURDAiDAa MAHAPRANAlDAa MAHAPRANAnE",
  "JAVANESE LETTER GAa MURDAiHAcIa KAWIfIcJAa MAHAPRANAmKAa MURDAfSASAKiLAcMAcNAa MURDAhGAa LELET",
  "JAVANESE LETTER NGA LELET RASWADIqYAa MURDAjObPAa CEREKfMURDAiRAa AGUNGiSAa MAHAPRANAiURDAiTA",
  "JAVANESE LETTER TA MURDAhTAa MAHAPRANAnUbWAcYAjPADA ADEGa ADEGiNDAPfISEN-ISENjLINGSAfUHURdNGSI",
  "JAVANESE PADA MADYAfPANGKATgISELEHhTIRTA TUMETESnWINDUiNGKONdRANGKEPlRIGHT RERENGGAN",
  "JAVANESE SIGN CECAKa TELUkLAYARfPANYANGGAjWIGNYANmTURNED PADA PISELEHtVOWEL SIGN DIRGA MURE",
  "JAVANESE VOWEL SIGN PEPETfSUKUa MENDUTlTALINGeRUNGfOLONGgWULUa MELIK",
  "JEANSeIGSAW PUZZLE PIECEsOINcYSTICKhUGGLINGgNOcPITERhKAABAdITHI ABBREVIATION SIGNrDANDA",
  "KAITHI DOUBLE DANDAfSECTION MARKtENUMERATION SIGNqLETTER AaAbIbUcBAbHAdCAbHAdDAbDAbDHAdHAdHAdE",
  "KAITHI LETTER GAbHAdHAcIaIcJAbHAdKAbHAdLAcMAcNAbGAcNAcYAdObPAbHAdRAbHAdSAbHAcSAdTAbHAcTAbHAeU",
  "KAITHI LETTER UUcVAcYAjNUMBER SIGNa ABOVErSECTION MARKlIGN ANUSVARAiCANDRABINDUlNUKTAfVIRAMA",
  "KAITHI SIGN VISARGAmVOWEL SIGN AAbIbUcEbIaIcObUaUcVOCALIC RzNGAROOeXI RADICAL AGAINeNDcRRIVE",
  "KANGXI RADICAL ARROWeXEdBADGEReMBOOfEANdIGbRDcTTERfLACKdOODdUEdOATcDYcLT OF CLOTHlNEcWcRANCH",
  "KANGXI RADICAL BRISTLEfUSHfCARTcULDRONgVEdHILDeITYdLANbWcIFFdOTHESgOLORdMPAREfRPSEeVERdWdDEATH",
  "KANGXI RADICAL DEERdIPPEReSHbTINGUISHjVINATIONjO NOTeGbORcTaTED CLIFFfTENTjUBLE XgWN BOXhRAGON",
  "KANGXI RADICAL DRUMcYdEARaTHdTcIGHTeMBROIDERYjNCLOSUREhTEReVENaINGgYEdFACEcNGcTHERfEATHERgIELD",
  "KANGXI RADICAL FIGHTdREcSHdLUTEdYcOOTdRAGRANTgOGdURdGATEdHOSTeOa SLOWLYhLDdRAINcSSfHAIRcLBERD",
  "KANGXI RADICAL HALF TREE TRUNKnNDdEADbRTdMPdIDING ENCLOSUREpOOKcRNbSEfICEcNCHcSECTgJADEcR",
  "KANGXI RADICAL KNIFEfLACKcMEdEAFbTHERfEKcGSdIDbFEcNEdONGa STRIDElMANcEATcLONeILLETeNISTERhOON",
  "KANGXI RADICAL MORNINGeTAReUNDbTAINfTHfNETcOSEcTdOLDcNEaSELFgPEN BOXgPOSEgPIGcLOWdOWEReRIVATE",
  "KANGXI RADICAL PROFOUNDiRAINcPbTcEDcICEcGHT OPEN BOXmVEReOOFdUNdSACRIFICIAL WINEoLTcYcCHOLAR",
  "KANGXI RADICAL SCRIPTfEALcCONDeEbLFdHEEPcLLdOOTcRT TAILED BIRDkHREADlICKNESSgLKdKINdLASHcVE",
  "KANGXI RADICAL SLICEeMALLeNOUTeOUNDePEARcECHeIRITeOONdROUTfQUAREfTANDdEAMcPcONEcPaPINGhUNcWEET",
  "KANGXI RADICAL TABLEdLLcNNED LEATHERnENcIGERdLEdONGUEeOTHeRACKdEEcIPODfURBANdTLEfWOa HANDSjUSE",
  "KANGXI RADICAL VALLEYfILLAGEhWALKa ENCLOSUREmTEReEAPONeSTdHEATdITEeINDbEdOMANdRKdRAPcONG",
  "KANGXI RADICAL YELLOWsNADA AI LENGTH MARKoDIGIT EIGHTfFIVEdOUReNINEeONEdSEVENeIXdTHREEeWOdZERO",
  "KANNADA LENGTH MARKjTTER AaAbIbUcBAbHAdCAbHAdDAbDAbHAdHAdEaEcFAcGAbHAdHAcIaIcJAbHAdKAbHAdLAbLA",
  "KANNADA LETTER LLLAeMAcNAaKAARA POLLUmGAcNAcYAdOaOcPAbHAdRAbRAdSAbHAcSAdTAbHAcTAbHAeUaUcVA",
  "KANNADA LETTER VOCALIC LaLcRaRkYAjSIGN ANUSVARAhVAGRAHAiCANDRABINDUlJIHVAMULIYAlNUKTAfSIDDHAM",
  "KANNADA SIGN SPACING CANDRABINDUtUPADHMANIYAlVIRAMAeSARGAmVOWEL SIGN AAbIbUcEaEcIaIcOaOcUaU",
  "KANNADA VOWEL SIGN VOCALIC LaLcRaR",
  "KATAKANA DIGRAPH KOTOmITERATION MARKoLETTER AaRCHAIC EbWUcYEbIkBAbEbIbObUcDAbEbIbObUcEbGAbEbI",
  "KATAKANA LETTER GObUcHAbEbIbObUcIbKAbEbIbObUcMAbEbIaNNAN NASALIZED TONE-1b2b3b4b5b7b8qTONE-2b3",
  "KATAKANA LETTER MINNAN TONE-4b5b7b8mObUcNaAbEbIbObUcObPAbEbIbObUcRAbEbIbObUcSAbEbIbMALL AbEbHA",
  "KATAKANA LETTER SMALL HEbIbObUcIbKAbEbUcMUcNaUcObRAbEbIbObUcSIbUcTObUcUbWAbEbIbOcYAbObUhObUcTA",
  "KATAKANA LETTER TEbIbObUcUbVAbEbIbObUcWAbEbIbOcYAbObUcZAbEbIbObUjMIDDLE DOT",
  "KATAKANA VOICED ITERATION MARKw-HIRAGANA DOUBLE HYPHENnPROLONGED SOUND MARK",
  "KATAKANA-HIRAGANA SEMI-VOICED SOUND MARKwVOICED SOUND MARK",
  "KAYAH LI DIGIT EIGHTfFIVEdOUReNINEeONEdSEVENeIXdTHREEeWOdZEROkLETTER AbBAcCAcDAcGAcHAbTAdIbKA",
  "KAYAH LI LETTER KHAdLAcMAcNAbGAcYAdOEbOcPAbHAdRAcSAbHAdTAbHAdVAcWAcYAcZAjSIGN CWIdSHYA",
  "KAYAH LI TONE CALYAa PLOPHUmPLOPHUlVOWEL EaEcObUaEqELVIN SIGNjYaBOARDa AND MOUSEpCAP TEN",
  "KHAROSHTHI DIGIT FOUReONEdTHREEeWOjFRACTION ONE HALFrLETTER AbBAbHAdCAbHAdDAbDAbHAdHAdGAbHAdHA",
  "KHAROSHTHI LETTER JAcKAbHAcKAdLAcMAcNAbNAcYAdPAbHAdRAcSAbHAcSAdTAbHAcTAbHAcTAbHAfVAbHAdYAcZA",
  "KHAROSHTHI NUMBER ONE HUNDREDhTHOUSANDmTENcWENTYnPUNCTUATION CIRCLEfRESCENT BARmDANDAeOT",
  "KHAROSHTHI PUNCTUATION DOUBLE DANDAmLINESeOTUSfMANGALAMiSMALL CIRCLEySIGN ANUSVARAiBAR ABOVE",
  "KHAROSHTHI SIGN CAUDAfDOT BELOWhUBLE RING BELOWrVISARGAmVIRAMAfOWEL LENGTH MARKlSIGN EbIbObU",
  "KHAROSHTHI VOWEL SIGN VOCALIC R",
  "KHITAN SMALL SCRIPT CHARACTER-18B00b1b2b3b4b5b6b7b8b9bAbBbCbDbEbFc10b1b2b3b4b5b6b7b8b9bAbBbCbD",
  "KHITAN SMALL SCRIPT CHARACTER-18B1EbFc20b1b2b3b4b5b6b7b8b9bAbBbCbDbEbFc30b1b2b3b4b5b6b7b8b9bA",
  "KHITAN SMALL SCRIPT CHARACTER-18B3BbCbDbEbFc40b1b2b3b4b5b6b7b8b9bAbBbCbDbEbFc50b1b2b3b4b5b6b7",
  "KHITAN SMALL SCRIPT CHARACTER-18B58b9bAbBbCbDbEbFc60b1b2b3b4b5b6b7b8b9bAbBbCbDbEbFc70b1b2b3b4",
  "KHITAN SMALL SCRIPT CHARACTER-18B75b6b7b8b9bAbBbCbDbEbFc80b1b2b3b4b5b6b7b8b9bAbBbCbDbEbFc90b1",
  "KHITAN SMALL SCRIPT CHARACTER-18B92b3b4b5b6b7b8b9bAbBbCbDbEbFcA0b1b2b3b4b5b6b7b8b9bAbBbCbDbEbF",
  "KHITAN SMALL SCRIPT CHARACTER-18BB0b1b2b3b4b5b6b7b8b9bAbBbCbDbEbFcC0b1b2b3b4b5b6b7b8b9bAbBbCbD",
  "KHITAN SMALL SCRIPT CHARACTER-18BCEbFcD0b1b2b3b4b5b6b7b8b9bAbBbCbDbEbFcE0b1b2b3b4b5b6b7b8b9bA",
  "KHITAN SMALL SCRIPT CHARACTER-18BEBbCbDbEbFcF0b1b2b3b4b5b6b7b8b9bAbBbCbDbEbFdC00b1b2b3b4b5b6b7",
  "KHITAN SMALL SCRIPT CHARACTER-18C08b9bAbBbCbDbEbFc10b1b2b3b4b5b6b7b8b9bAbBbCbDbEbFc20b1b2b3b4",
  "KHITAN SMALL SCRIPT CHARACTER-18C25b6b7b8b9bAbBbCbDbEbFc30b1b2b3b4b5b6b7b8b9bAbBbCbDbEbFc40b1",
  "KHITAN SMALL SCRIPT CHARACTER-18C42b3b4b5b6b7b8b9bAbBbCbDbEbFc50b1b2b3b4b5b6b7b8b9bAbBbCbDbEbF",
  "KHITAN SMALL SCRIPT CHARACTER-18C60b1b2b3b4b5b6b7b8b9bAbBbCbDbEbFc70b1b2b3b4b5b6b7b8b9bAbBbCbD",
  "KHITAN SMALL SCRIPT CHARACTER-18C7EbFc80b1b2b3b4b5b6b7b8b9bAbBbCbDbEbFc90b1b2b3b4b5b6b7b8b9bA",
  "KHITAN SMALL SCRIPT CHARACTER-18C9BbCbDbEbFcA0b1b2b3b4b5b6b7b8b9bAbBbCbDbEbFcB0b1b2b3b4b5b6b7",
  "KHITAN SMALL SCRIPT CHARACTER-18CB8b9bAbBbCbDbEbFcC0b1b2b3b4b5b6b7b8b9bAbBbCbDbEbFcD0b1b2b3b4",
  "KHITAN SMALL SCRIPT CHARACTER-18CD5pFILLERyMER CURRENCY SYMBOL RIELuDIGIT EIGHTfFIVEdOUReNINE",
  "KHMER DIGIT ONEdSEVENeIXdTHREEeWOdZEROkINDEPENDENT VOWEL LYaYdQAAbIbQbUcEbIaIcOO TYPE ONEdTWO",
  "KHMER INDEPENDENT VOWEL QUaKbUaVeRYaYvLETTER BAcCAbHAbOcOcDAbOcHAcKAbHAbOcOcLAbOcMOcNGOcNOcO",
  "KHMER LETTER NYOdPHAbOcOcQAcROcSAbHAcSOdTAbHAbOcObTHAbOeVOcYOjSIGN AHSDAeTTHACANhVAKRAHASANYA",
  "KHMER SIGN BANTOCeRIYOOSANiTHAMASATjEYYALgCAMNUC PII KUUHoOENGfKAKABATgHANdOOMUUThLEK TOO",
  "KHMER SIGN MUUSIKATOANlNIKAHIThPHNAEK MUANlREAHMUKgOBATfSAMYOK SANNYAnTOANDAKHIATkRIISAP",
  "KHMER SIGN VIRIAMgYUUKALEAPINTUrYMBOL BEI KOETeROCgUON KOETeROCiDAP KOETeROCe-BEI KOETeROC",
  "KHMER SYMBOL DAP-BUON KOETeROCiMUOY KOETeROCiPII KOETeROCgRAM KOETeROCmLEK ATTAK BEIcUONeMUOY",
  "KHMER SYMBOL LEK ATTAK PIIcRAMa-BEIcUONeMUOYePIIiSONnMUOY KOETeROCiPATHAMASATjII KOETeROC",
  "KHMER SYMBOL PRAM KOETeROCe-BEI KOETeROCgUON KOETeROCiMUOY KOETeROCiPII KOETeROCmTUTEYASAT",
  "KHMER VOWEL INHERENT AAbQlSIGN AAbEbIbUcEbIaEbIcOEbOcUaAbUcYaAbYrOJKI ABBREVIATION SIGNrDANDA",
  "KHOJKI DOUBLE DANDAfSECTION MARKtLETTER AaAbIbUcBAbBAcHAdCAbHAdDAbDAbDAcHAdHAdEbGAbGAcHAdHAcI",
  "KHOJKI LETTER JAbJAdKAbHAdLAbLAdMAcNAbGAcNAcYAdObPAbHAdRAcSAcTAbHAcTAbHAeUbVAcYAjSECTION MARK",
  "KHOJKI SIGN ANUSVARAiNUKTAfSHADDAfUKUNfVIRAMAlVOWEL SIGN AAbIbUcEbIaIcObUmWORD SEPARATOR",
  "KHUDAWADI DIGIT EIGHTfFIVEdOUReNINEeONEdSEVENeIXdTHREEeWOdZEROkLETTER AaAbIbUcBAbBAcHAdCAbHA",
  "KHUDAWADI LETTER DAbDAbDAcHAdHAdEbGAbGAcHAdHAcIaIcJAbHAcJAdKAbHAdLAcMAcNAbGAcNAcYAdObPAbHAdRA",
  "KHUDAWADI LETTER RRAdSAbHAdTAbHAcTAbHAeUaUcVAcYAjSIGN ANUSVARAiNUKTAfVIRAMAlVOWEL SIGN AAbIbU",
  "KHUDAWADI VOWEL SIGN EbIaIcObUaUwIMONOeP SIGNgSSa MARKfING CAT FACE WITH CLOSED EYESzFACE",
  "KISSING FACE WITH CLOSED EYESlSMILING EYES",
  "KITEcWIFRUITiNEELING PERSONnOTdOALAdREAN STANDARD SYMBOLvRONOSgL B BAR SYMBOLnAB COATfEL",
  "LACROSSE STICK AND BALLvDDERdY BEETLEjNGUAGE TAGkO CANCELLATION MARKrDIGIT EIGHTfFIVEdOUReNINE",
  "LAO DIGIT ONEdSEVENeIXdTHREEeWOdZEROkELLIPSISiHO MOcNOfKO LAfLETTER BOcCOcDOcFO FAYcONdSUNG",
  "LAO LETTER FO TAMgHO SUNGeTAMgKHMU GOcNYOgO SUNGeTAMgOcLOa LINGdOOThMOcNGOcObYOdObPALI BHAdCHA",
  "LAO LETTER PALI DDAbHAdHAdGHAdJHAdLLAdNNAcYAdTTAbHAiHO SUNGeTAMgOcROcSANSKRIT SHAcSAlO SUNG",
  "LAO LETTER SO TAMgTHO SUNGeTAMgOcWOcYOjNIGGAHITAjSEMIVOWEL SIGN LOcNYOrIGN PALI VIRAMA",
  "LAO TONE MAI CATAWAgEKcTHOcIlVOWEL SIGN AaAbIbMbYcEaIcIaIcMAI KANcONhObUaUcYaYpRGE BLUE CIRCLE",
  "LARGE BLUE DIAMONDhSQUAREkROWN CIRCLEgSQUAREmCIRCLEgDOWN TACKjGREEN CIRCLEgSQUARE",
  "LARGE LEFT TRIANGLE OPERATORwONE DOT OVER TWO DOTS PUNCTUATION",
  "LARGE ONE RING OVER TWO RINGS PUNCTUATION",
  "LARGE ORANGE CIRCLEgDIAMONDhSQUAREnPURPLE CIRCLEgSQUAREnRED CIRCLEgSQUARE",
  "LARGE TRIPLE VERTICAL BAR OPERATOR",
  "LARGE TWO DOTS OVER ONE DOT PUNCTUATION",
  "LARGE TWO RINGS OVER ONE RING PUNCTUATION",
  "LARGE UP TACKhYELLOW CIRCLEgSQUAREoR THANa OR EQUAL TOuI SIGNhST QUARTER MOONa SYMBOL",
  "LAST QUARTER MOON WITH FACEzTIN CAPITAL LETTER Aa WITH ACUTEfBREVEa AND ACUTEfDOT BELOWjGRAVE",
  "LATIN CAPITAL LETTER A WITH BREVE AND HOOK ABOVEkTILDEpCARONeIRCUMFLEXa AND ACUTEfDOT BELOW",
  "LATIN CAPITAL LETTER A WITH CIRCUMFLEX AND GRAVEfHOOK ABOVEkTILDEuDIAERESISa AND MACRON",
  "LATIN CAPITAL LETTER A WITH DOT ABOVEa AND MACRONqBELOWhUBLE GRAVEmGRAVEfHOOK ABOVE",
  "LATIN CAPITAL LETTER A WITH INVERTED BREVEoMACRONgOGONEKgRING ABOVEa AND ACUTEpBELOWkSTROKE",
  "LATIN CAPITAL LETTER A WITH TILDElAbEa WITH ACUTEfMACRONnFRICAN DiLPHAeNGLICANA WkObUbV",
  "LATIN CAPITAL LETTER AV WITH HORIZONTAL BARvYcBa WITH DOT ABOVEfBELOWjFLOURISHiHOOKeLINE BELOW",
  "LATIN CAPITAL LETTER B WITH STROKEgTOPBARmETAdROKEN LiCa WITH ACUTEfBARdCARONeEDILLA",
  "LATIN CAPITAL LETTER C WITH CEDILLA AND ACUTEqIRCUMFLEXkDOT ABOVEjHOOKePALATAL HOOKmSTROKEmHI",
  "LATIN CAPITAL LETTER CLOSED INSULAR GpONcUATRILLOa WITH COMMAuDa WITH CARONeEDILLA",
  "LATIN CAPITAL LETTER D WITH CIRCUMFLEX BELOWqDOT ABOVEfBELOWjHOOKeLINE BELOW",
  "LATIN CAPITAL LETTER D WITH SHORT STROKE OVERLAYtMALL LETTER Za WITH CARONyTROKEgTOPBARmZ",
  "LATIN CAPITAL LETTER DZ WITH CARONnEa WITH ACUTEfBREVEfCARONeEDILLAa AND BREVEqIRCUMFLEX",
  "LATIN CAPITAL LETTER E WITH CIRCUMFLEX AND ACUTEfDOT BELOWjGRAVEfHOOK ABOVEkTILDEjBELOW",
  "LATIN CAPITAL LETTER E WITH DIAERESISiOT ABOVEfBELOWhUBLE GRAVEmGRAVEfHOOK ABOVE",
  "LATIN CAPITAL LETTER E WITH INVERTED BREVEoMACRONa AND ACUTEfGRAVEqOGONEKgSTROKEgTILDEa BELOW",
  "LATIN CAPITAL LETTER EGYPTOLOGICAL AINcLEFrNGcSHcTaHcZHa REVERSEDiWITH CARONoFa WITH DOT ABOVE",
  "LATIN CAPITAL LETTER F WITH HOOKeSTROKEnGa WITH ACUTEfBREVEfCARONeEDILLAgIRCUMFLEXkDOT ABOVE",
  "LATIN CAPITAL LETTER G WITH HOOKeMACRONgOBLIQUE STROKEoSTROKEmAMMAeHAcLOTTAL AbIbSTOPeUjH",
  "LATIN CAPITAL LETTER H WITH BREVE BELOWlCARONeEDILLAgIRCUMFLEXkDESCENDERiIAERESISiOT ABOVE",
  "LATIN CAPITAL LETTER H WITH DOT BELOWjHOOKeSTROKEmALF HfENGdWAIRfIa WITH ACUTEfBREVEfCARON",
  "LATIN CAPITAL LETTER I WITH CIRCUMFLEXkDIAERESISa AND ACUTEsOT ABOVEfBELOWhUBLE GRAVEmGRAVE",
  "LATIN CAPITAL LETTER I WITH HOOK ABOVEkINVERTED BREVEoMACRONgOGONEKgSTROKEgTILDEa BELOW",
  "LATIN CAPITAL LETTER INSULAR DbFbGbRbSbTiOTAdScJa WITH CIRCUMFLEXjROSSED-TAILmSTROKEnK",
  "LATIN CAPITAL LETTER K WITH ACUTEfCARONeEDILLAhDESCENDERiIAGONAL STROKEoOT BELOWjHOOK",
  "LATIN CAPITAL LETTER K WITH LINE BELOWkOBLIQUE STROKEoSTROKEa AND DIAGONAL STROKE",
  "LATIN CAPITAL LETTER La WITH ACUTEfBARcELTeCARONeEDILLAgIRCUMFLEX BELOWqDOT BELOWa AND MACRON",
  "LATIN CAPITAL LETTER L WITH DOUBLE BARkHIGH STROKElLINE BELOWkMIDDLE DOTdTILDEmSMALL LETTER J",
  "LATIN CAPITAL LETTER L WITH STROKEmJcMa WITH ACUTEfDOT ABOVEfBELOWjHOOKkIDDLE SCOTS S",
  "LATIN CAPITAL LETTER MIDDLE-WELSH LLcVoNa WITH ACUTEfCARONeEDILLAgIRCUMFLEX BELOWqDESCENDER",
  "LATIN CAPITAL LETTER N WITH DOT ABOVEfBELOWjGRAVEfLEFT HOOKiINE BELOWjONG RIGHT LEG",
  "LATIN CAPITAL LETTER N WITH OBLIQUE STROKEoSMALL LETTER JoTILDElJcOa WITH ACUTEfBREVEfCARON",
  "LATIN CAPITAL LETTER O WITH CIRCUMFLEXa AND ACUTEfDOT BELOWjGRAVEfHOOK ABOVEkTILDEuDIAERESIS",
  "LATIN CAPITAL LETTER O WITH DIAERESIS AND MACRONtOT ABOVEa AND MACRONqBELOWhUBLE ACUTEfGRAVE",
  "LATIN CAPITAL LETTER O WITH GRAVEfHOOK ABOVEiRNa AND ACUTEfDOT BELOWjGRAVEfHOOK ABOVEkTILDE",
  "LATIN CAPITAL LETTER O WITH INVERTED BREVEoLONG STROKE OVERLAYrOPeMACRONa AND ACUTEfGRAVE",
  "LATIN CAPITAL LETTER O WITH MIDDLE TILDEmOGONEKa AND MACRONrSTROKEa AND ACUTEqTILDEa AND ACUTE",
  "LATIN CAPITAL LETTER O WITH TILDE AND DIAERESISjMACRONwIbLD POLISH OlMEGAeObPEN EbOfUcP",
  "LATIN CAPITAL LETTER P WITH ACUTEfDOT ABOVEjFLOURISHiHOOKeSQUIRREL TAILmTROKE",
  "LATIN CAPITAL LETTER P WITH STROKE THROUGH DESCENDER",
  "LATIN CAPITAL LETTER Qa WITH DIAGONAL STROKEpSTROKE THROUGH DESCENDER",
  "LATIN CAPITAL LETTER Ra ROTUNDAhWITH ACUTEfCARONeEDILLAhDOT ABOVEfBELOWa AND MACRONsUBLE GRAVE",
  "LATIN CAPITAL LETTER R WITH INVERTED BREVEoLINE BELOWkOBLIQUE STROKEoSTROKEgTAIL",
  "LATIN CAPITAL LETTER REVERSED C WITH DOTkEbHALF HgOPEN EoUM ROTUNDAlSa WITH ACUTE",
  "LATIN CAPITAL LETTER S WITH ACUTE AND DOT ABOVEtCARONa AND DOT ABOVEsEDILLAgIRCUMFLEX",
  "LATIN CAPITAL LETTER S WITH COMMA BELOWlDOT ABOVEfBELOWa AND DOT ABOVExHOOKeOBLIQUE STROKE",
  "LATIN CAPITAL LETTER S WITH SHORT STROKE OVERLAYtWASH TAILqALTILLOhCHWAdRIPT GhHARP SgIGMOID S",
  "LATIN CAPITAL LETTER SMALL CAPITAL IjQ WITH HOOK TAILwTa WITH CARONeEDILLAgIRCUMFLEX BELOW",
  "LATIN CAPITAL LETTER T WITH COMMA BELOWlDIAGONAL STROKEoOT ABOVEfBELOWjHOOKeLINE BELOW",
  "LATIN CAPITAL LETTER T WITH RETROFLEX HOOKoSTROKEmHORNa WITH STROKEa THROUGH DESCENDER",
  "LATIN CAPITAL LETTER TONE FIVEeSIXdTWOhRESILLOhURNED AaLPHAfHbINSULAR GjKbLbMbTbVhZcUa BAR",
  "LATIN CAPITAL LETTER U WITH ACUTEfBREVEfCARONeIRCUMFLEXa BELOWqDIAERESISa AND ACUTEfCARON",
  "LATIN CAPITAL LETTER U WITH DIAERESIS AND GRAVEfMACRONkBELOWoOT BELOWhUBLE ACUTEfGRAVEmGRAVE",
  "LATIN CAPITAL LETTER U WITH HOOK ABOVEiRNa AND ACUTEfDOT BELOWjGRAVEfHOOK ABOVEkTILDE",
  "LATIN CAPITAL LETTER U WITH INVERTED BREVEoMACRONa AND DIAERESISuOGONEKgRING ABOVEkSTROKE",
  "LATIN CAPITAL LETTER U WITH TILDEa AND ACUTEjBELOWrPSILONhVa WITH DIAGONAL STROKEoOT BELOW",
  "LATIN CAPITAL LETTER V WITH HOOKeTILDElENDdISIGOTHIC ZlOLAPUK AEcOEcUEjYcWa WITH ACUTE",
  "LATIN CAPITAL LETTER W WITH CIRCUMFLEXkDIAERESISiOT ABOVEfBELOWjGRAVEfHOOKkYNNeX",
  "LATIN CAPITAL LETTER X WITH DIAERESISiOT ABOVEqYa WITH ACUTEfCIRCUMFLEXkDIAERESISiOT ABOVE",
  "LATIN CAPITAL LETTER Y WITH DOT BELOWjGRAVEfHOOKa ABOVEkLOOPeMACRONgSTROKEgTILDElOGHeZ",
  "LATIN CAPITAL LETTER Z WITH ACUTEfCARONeIRCUMFLEXkDESCENDERiOT ABOVEfBELOWjHOOKeLINE BELOW",
  "LATIN CAPITAL LETTER Z WITH PALATAL HOOKmSTROKEfWASH TAILxIGATURE IJcOEsROSS",
  "LATIN EPIGRAPHIC LETTER ARCHAIC MjI LONGAgNVERTED MkREVERSED FbPkSIDEWAYS I",
  "LATIN LETTER AINcLVEOLAR CLICKoBIDENTAL PERCUSSIVErLABIAL CLICKfPERCUSSIVEtDENTAL CLICK",
  "LATIN LETTER GLOTTAL STOPa WITH STROKEyINVERTED GLOTTAL STOPa WITH CURLeSTROKE",
  "LATIN LETTER LATERAL CLICKnPHARYNGEAL VOICED FRICATIVE",
  "LATIN LETTER RETROFLEX CLICKa WITH RETROFLEX HOOK",
  "LATIN LETTER REVERSED ESH LOOPiGLOTTAL STOP WITH STROKE",
  "LATIN LETTER SINOLOGICAL DOToMALL CAPITAL AaEcBaARRED BiCbDbEaTHcZHdFbGa WITH HOOKlHbI",
  "LATIN LETTER SMALL CAPITAL INVERTED RkJbKbLa WITH BELTeSTROKEnMbNbOaEbPEN OfUcPbQbR",
  "LATIN LETTER SMALL CAPITAL R WITH RIGHT LEGpEVERSED NbRjUMdSbTaURNED EbGbKbMbRiUbVbWbYbZ",
  "LATIN LETTER STRETCHED Ca WITH CURLvTWO WITH STROKEpVOICED LARYNGEAL SPIRANTyWYNNeYR",
  "LATIN SMALL CAPITAL LETTER I WITH STROKEnU WITH STROKE",
  "LATIN SMALL LETTER Aa REVERSED-SCHWAoWITH ACUTEfBREVEa AND ACUTEfDOT BELOWjGRAVEfHOOK ABOVE",
  "LATIN SMALL LETTER A WITH BREVE AND TILDEpCARONeIRCUMFLEXa AND ACUTEfDOT BELOWjGRAVE",
  "LATIN SMALL LETTER A WITH CIRCUMFLEX AND HOOK ABOVEkTILDEuDIAERESISa AND MACRONtOT ABOVE",
  "LATIN SMALL LETTER A WITH DOT ABOVE AND MACRONqBELOWhUBLE GRAVEmGRAVEfHOOK ABOVE",
  "LATIN SMALL LETTER A WITH INVERTED BREVEoMACRONgOGONEKgRETROFLEX HOOKnIGHT HALF RINGnNG ABOVE",
  "LATIN SMALL LETTER A WITH RING ABOVE AND ACUTEpBELOWkSTROKEgTILDElAbEa WITH ACUTEfMACRONnLPHA",
  "LATIN SMALL LETTER ALPHA WITH RETROFLEX HOOKyNGLICANA WkObUbVa WITH HORIZONTAL BARvYcB",
  "LATIN SMALL LETTER B WITH DOT ABOVEfBELOWjFLOURISHiHOOKeLINE BELOWkMIDDLE TILDEmPALATAL HOOK",
  "LATIN SMALL LETTER B WITH STROKEgTOPBARmARRED ALPHAfEbOgSELINE ESHlETAdLACKLETTER EbO",
  "LATIN SMALL LETTER BLACKLETTER O WITH STROKEyOTTOM HALF OmROKEN LiCa WITH ACUTEfBARdCARON",
  "LATIN SMALL LETTER C WITH CEDILLAa AND ACUTEqIRCUMFLEXjURLeDOT ABOVEjHOOKePALATAL HOOK",
  "LATIN SMALL LETTER C WITH RETROFLEX HOOKoSTROKEmHIa WITH LOW LEFT SERIFkRIGHT RING",
  "LATIN SMALL LETTER CLOSED INSULAR GjOMEGAePEN EgREVERSED OPEN EvONcUATRILLOa WITH COMMAuD",
  "LATIN SMALL LETTER D WITH CARONeEDILLAgIRCUMFLEX BELOWpURLeDOT ABOVEfBELOWjHOOKa AND TAIL",
  "LATIN SMALL LETTER D WITH LINE BELOWkMIDDLE TILDEmPALATAL HOOKmSHORT STROKE OVERLAYtTROKEgTAIL",
  "LATIN SMALL LETTER D WITH TOPBARmB DIGRAPHjELTAdZH DIGRAPHa WITH PALATAL HOOKmRETROFLEX HOOK",
  "LATIN SMALL LETTER DOTLESS IbJa WITH STROKEa AND HOOK",
  "LATIN SMALL LETTER DOUBLE Ra WITH CROSSED-TAILtTHORNfWYNNkUMcZa DIGRAPHa WITH CURL",
  "LATIN SMALL LETTER DZ DIGRAPH WITH RETROFLEX HOOK",
  "LATIN SMALL LETTER DZ WITH CARONnEa WITH ACUTEfBREVEfCARONeEDILLAa AND BREVEqIRCUMFLEX",
  "LATIN SMALL LETTER E WITH CIRCUMFLEX AND ACUTEfDOT BELOWjGRAVEfHOOK ABOVEkTILDEjBELOW",
  "LATIN SMALL LETTER E WITH DIAERESISiOT ABOVEfBELOWhUBLE GRAVEmFLOURISHiGRAVEfHOOK ABOVE",
  "LATIN SMALL LETTER E WITH INVERTED BREVEoMACRONa AND ACUTEfGRAVEqNOTCHfOGONEKgRETROFLEX HOOK",
  "LATIN SMALL LETTER E WITH STROKEgTILDEa BELOWrGYPTOLOGICAL AINcLEFrNGa WITH CROSSED-TAIL",
  "LATIN SMALL LETTER ENG WITH PALATAL HOOKuSHa WITH CURLeDOUBLE BARa AND CURLtPALATAL HOOK",
  "LATIN SMALL LETTER ESH WITH RETROFLEX HOOKwTaHcZHa REVERSEDiWITH CARONeURLePALATAL HOOK",
  "LATIN SMALL LETTER EZH WITH RETROFLEX HOOKoTAILnFa WITH DOT ABOVEjHOOKeMIDDLE TILDE",
  "LATIN SMALL LETTER F WITH PALATAL HOOKmSTROKEmENG DIGRAPHa WITH TRILLxGa WITH ACUTEfBREVE",
  "LATIN SMALL LETTER G WITH CARONeEDILLAgIRCUMFLEXkDOT ABOVEjHOOKeMACRONgOBLIQUE STROKE",
  "LATIN SMALL LETTER G WITH PALATAL HOOKmSTROKEmAMMAeHAcLOTTAL AbIbSTOPeUjHa WITH BREVE BELOW",
  "LATIN SMALL LETTER H WITH CARONeEDILLAgIRCUMFLEXkDESCENDERiIAERESISiOT ABOVEfBELOWjHOOK",
  "LATIN SMALL LETTER H WITH LINE BELOWkPALATAL HOOKmSTROKEmALF HfENGa WITH HOOKnVcIa WITH ACUTE",
  "LATIN SMALL LETTER I WITH BREVEfCARONeIRCUMFLEXkDIAERESISa AND ACUTEsOT BELOWhUBLE GRAVEmGRAVE",
  "LATIN SMALL LETTER I WITH HOOK ABOVEkINVERTED BREVEoMACRONgOGONEKgRETROFLEX HOOKoSTROKE",
  "LATIN SMALL LETTER I WITH STROKE AND RETROFLEX HOOKzTILDEa BELOWrNSULAR DbFbGbRbSbT",
  "LATIN SMALL LETTER INVERTED ALPHAfOEkOTAa WITH STROKEnIFIED EjScJa WITH CARONeIRCUMFLEX",
  "LATIN SMALL LETTER J WITH CROSSED-TAILmSTROKEnKa WITH ACUTEfCARONeEDILLAhDESCENDER",
  "LATIN SMALL LETTER K WITH DIAGONAL STROKEoOT BELOWjHOOKeLINE BELOWkOBLIQUE STROKEoPALATAL HOOK",
  "LATIN SMALL LETTER K WITH STROKEa AND DIAGONAL STROKE",
  "LATIN SMALL LETTER KRAdLa WITH ACUTEfBARcELTa AND PALATAL HOOKvCARONeEDILLAgIRCUMFLEX BELOW",
  "LATIN SMALL LETTER L WITH CURLeDOT BELOWa AND MACRONsUBLE BARdMIDDLE TILDEtFISHHOOK",
  "LATIN SMALL LETTER L WITH HIGH STROKElINVERTED LAZY SpLINE BELOWkMIDDLE DOTdRINGeTILDE",
  "LATIN SMALL LETTER L WITH PALATAL HOOKmRETROFLEX HOOKa AND BELTxSTROKEmAMBDA WITH STROKE",
  "LATIN SMALL LETTER LENIS FfZHa WITH RETROFLEX HOOKxJbONG Sa WITH DIAGONAL STROKEoOT ABOVE",
  "LATIN SMALL LETTER LONG S WITH HIGH STROKEwS DIGRAPHjUMcZ DIGRAPHkMa WITH ACUTEfCROSSED-TAIL",
  "LATIN SMALL LETTER M WITH DOT ABOVEfBELOWjHOOKeMIDDLE TILDEmPALATAL HOOKsIDDLE SCOTS S",
  "LATIN SMALL LETTER MIDDLE-WELSH LLcVnUMdNa PRECEDED BY APOSTROPHEwWITH ACUTEfCARONeEDILLA",
  "LATIN SMALL LETTER N WITH CIRCUMFLEX BELOWpROSSED-TAILlURLeDESCENDERiOT ABOVEfBELOWjGRAVE",
  "LATIN SMALL LETTER N WITH LEFT HOOKiINE BELOWjONG RIGHT LEGoMIDDLE TILDEmOBLIQUE STROKE",
  "LATIN SMALL LETTER N WITH PALATAL HOOKmRETROFLEX HOOKoTILDElJbUMdOa WITH ACUTEfBREVEfCARON",
  "LATIN SMALL LETTER O WITH CIRCUMFLEXa AND ACUTEfDOT BELOWjGRAVEfHOOK ABOVEkTILDEuDIAERESIS",
  "LATIN SMALL LETTER O WITH DIAERESIS AND MACRONtOT ABOVEa AND MACRONqBELOWhUBLE ACUTEfGRAVE",
  "LATIN SMALL LETTER O WITH GRAVEfHOOK ABOVEiRNa AND ACUTEfDOT BELOWjGRAVEfHOOK ABOVEkTILDE",
  "LATIN SMALL LETTER O WITH INVERTED BREVEoLONG STROKE OVERLAYrOPcW RING INSIDEpMACRON",
  "LATIN SMALL LETTER O WITH MACRON AND ACUTEfGRAVEqOGONEKa AND MACRONrRETROFLEX HOOKoSTROKE",
  "LATIN SMALL LETTER O WITH STROKE AND ACUTEqTILDEa AND ACUTEfDIAERESISjMACRONwIbLD POLISH O",
  "LATIN SMALL LETTER OMEGAeObPEN Ea WITH RETROFLEX HOOKvOa WITH RETROFLEX HOOKoSTROKEmEgUcP",
  "LATIN SMALL LETTER P WITH ACUTEfDOT ABOVEjFLOURISHiHOOKeMIDDLE TILDEmPALATAL HOOK",
  "LATIN SMALL LETTER P WITH SQUIRREL TAILmTROKEa THROUGH DESCENDER",
  "LATIN SMALL LETTER PHIdQa WITH DIAGONAL STROKEpHOOKa TAILjSTROKE THROUGH DESCENDER",
  "LATIN SMALL LETTER QP DIGRAPHkRa ROTUNDAhWITH ACUTEfCARONeEDILLAgROSSED-TAILmDOT ABOVEfBELOW",
  "LATIN SMALL LETTER R WITH DOT BELOW AND MACRONsUBLE GRAVEmFISHHOOKa AND MIDDLE TILDE",
  "LATIN SMALL LETTER R WITH FISHHOOK AND PALATAL HOOKzINVERTED BREVEoLINE BELOWjONG LEG",
  "LATIN SMALL LETTER R WITH MIDDLE TILDEmOBLIQUE STROKEoPALATAL HOOKmSTROKEgTAILfOUT HANDLE",
  "LATIN SMALL LETTER RAMS HORNiEVERSED Ca WITH DOTkEaNGdHALF HgKbOPEN Ea WITH HOOK",
  "LATIN SMALL LETTER REVERSED OPEN E WITH RETROFLEX HOOK",
  "LATIN SMALL LETTER REVERSED R WITH FISHHOOKpSCRIPT GqUMa ROTUNDAlSa WITH ACUTEa AND DOT ABOVE",
  "LATIN SMALL LETTER S WITH CARONa AND DOT ABOVEsEDILLAgIRCUMFLEXjOMMA BELOWkURLeDOT ABOVEfBELOW",
  "LATIN SMALL LETTER S WITH DOT BELOW AND DOT ABOVExHOOKeMIDDLE TILDEmOBLIQUE STROKE",
  "LATIN SMALL LETTER S WITH PALATAL HOOKmSHORT STROKE OVERLAYtWASH TAILqAKHA YAThLTILLOhCHWA",
  "LATIN SMALL LETTER SCHWA WITH HOOKeRETROFLEX HOOKxRIPT Ga WITH CROSSED-TAILtRa WITH RING",
  "LATIN SMALL LETTER SHARP SgIDEWAYS DIAERESIZED UnOa WITH STROKEmPEN OgTURNED MiUiGMOID S",
  "LATIN SMALL LETTER SQUAT REVERSED ESHrTIRRUP RjTa WITH CARONeEDILLAgIRCUMFLEX BELOWpOMMA BELOW",
  "LATIN SMALL LETTER T WITH CURLeDIAERESISgGONAL STROKEoOT ABOVEfBELOWjHOOKa AND RETROFLEX HOOK",
  "LATIN SMALL LETTER T WITH LINE BELOWkMIDDLE TILDEmPALATAL HOOKmRETROFLEX HOOKoSTROKE",
  "LATIN SMALL LETTER TAILLESS PHIlC DIGRAPH WITH CURLtESH DIGRAPHa WITH PALATAL HOOK",
  "LATIN SMALL LETTER TESH DIGRAPH WITH RETROFLEX HOOK",
  "LATIN SMALL LETTER TH WITH STRIKETHROUGHtORNa WITH STROKEa THROUGH DESCENDER",
  "LATIN SMALL LETTER TONE FIVEeSIXdTWOgP HALF OjRESILLOhS DIGRAPHa WITH RETROFLEX HOOK",
  "LATIN SMALL LETTER TUMbRNED AaEbLPHAfDELTAfEbGbHa WITH FISHHOOKa AND TAILyIaNSULAR GjKbLbM",
  "LATIN SMALL LETTER TURNED M WITH LONG LEGpO OPEN-Oa WITH STROKEtEa WITH HORIZONTAL STROKE",
  "LATIN SMALL LETTER TURNED OE WITH STROKEnPEN EgRa WITH HOOKeLONG LEGa AND RETROFLEX HOOK",
  "LATIN SMALL LETTER TURNED R WITH MIDDLE TILDEmPALATAL HOOKmTAILlTa WITH CURLlUIcVbWbY",
  "LATIN SMALL LETTER TURNED Y WITH BELTrZcUa BARa WITH SHORT RIGHT LEGyWITH ACUTEfBREVEfCARON",
  "LATIN SMALL LETTER U WITH CIRCUMFLEXa BELOWqDIAERESISa AND ACUTEfCARONfGRAVEfMACRONkBELOW",
  "LATIN SMALL LETTER U WITH DOT BELOWhUBLE ACUTEfGRAVEmGRAVEfHOOK ABOVEiRNa AND ACUTEfDOT BELOW",
  "LATIN SMALL LETTER U WITH HORN AND GRAVEfHOOK ABOVEkTILDEoINVERTED BREVEoLEFT HOOKjMACRON",
  "LATIN SMALL LETTER U WITH MACRON AND DIAERESISuOGONEKgRETROFLEX HOOKnING ABOVEkSHORT RIGHT LEG",
  "LATIN SMALL LETTER U WITH STROKEgTILDEa AND ACUTEjBELOWrEbIbMbObPSILONa WITH STROKEtV",
  "LATIN SMALL LETTER V WITH CURLeDIAGONAL STROKEoOT BELOWjHOOKePALATAL HOOKmRIGHT HOOKkTILDElEND",
  "LATIN SMALL LETTER VISIGOTHIC ZlOLAPUK AEcOEcUEjYcWa WITH ACUTEfCIRCUMFLEXkDIAERESISiOT ABOVE",
  "LATIN SMALL LETTER W WITH DOT BELOWjGRAVEfHOOKeRING ABOVErXa WITH DIAERESISiOT ABOVE",
  "LATIN SMALL LETTER X WITH LONG LEFT LEGa AND LOW RIGHT RINGsWITH SERIFwW RIGHT RING",
  "LATIN SMALL LETTER X WITH PALATAL HOOKtYa WITH ACUTEfCIRCUMFLEXkDIAERESISiOT ABOVEfBELOWjGRAVE",
  "LATIN SMALL LETTER Y WITH HOOKa ABOVEkLOOPeMACRONgRING ABOVEkSHORT RIGHT LEGoTROKEgTILDElOGHeZ",
  "LATIN SMALL LETTER Z WITH ACUTEfCARONeIRCUMFLEXjURLeDESCENDERiOT ABOVEfBELOWjHOOKeLINE BELOW",
  "LATIN SMALL LETTER Z WITH MIDDLE TILDEmPALATAL HOOKmRETROFLEX HOOKoSTROKEfWASH TAILxIGATURE FF",
  "LATIN SMALL LIGATURE FFIbLcIbLcIJcLONG S TiOEcSTqUBSCRIPT SMALL LETTER AbEbHbIbJbKbLbMbNbObPbR",
  "LATIN SUBSCRIPT SMALL LETTER SaCHWAfTbUbVbX",
  "LEAF FLUTTERING IN WINDtY GREENjDGEReFT AND LOWER AND RIGHT TRIANGULAR THREE QUARTERS BLOCK",
  "LEFT AND LOWER ONE EIGHTH BLOCKwRIGHT DOUBLE TURNSTILEqTACKdRIANGULAR HALF BLOCK",
  "LEFT AND UPPER AND RIGHT TRIANGULAR THREE QUARTERS BLOCK",
  "LEFT AND UPPER ONE EIGHTH BLOCKyGER BUBBLEjLE BRACKETa WITH DOTvRC LESS-THAN BRACKET",
  "LEFT ARROW WITH CIRCLED PLUSmSMALL CIRCLExBARB DOWN RIGHT BARB DOWN HARPOONmUP HARPOON",
  "LEFT BARB UP RIGHT BARB DOWN HARPOONmUP HARPOON",
  "LEFT BLACK LENTICULAR BRACKETsTORTOISE SHELL BRACKET",
  "LEFT CEILINGgLOSED ENTRYlORNER BRACKETnURLY BRACKETa LOWER HOOKkMIDDLE PIECEmUPPER HOOK",
  "LEFT DOTTED SUBSTITUTION BRACKETzUBLE ANGLE BRACKETnPARENTHESISlQUOTATION MARKoWIGGLY FENCE",
  "LEFT FISH TAILhVE EIGHTHS BLOCKrLOORfHALF BLACK CIRCLEgSTARiOCKfCIRCLEa WITH DOTdFOUR DOTS",
  "LEFT HALF CIRCLE WITH THREE DOTSjWO DOTSuFOLDERgINVERSE MEDIUM SHADE AND RIGHT HALF BLOCK",
  "LEFT HALF MEDIUM SHADEmRUNNING MANoND TELEPHONE RECEIVERxLOW PARAPHRASE BRACKETvUGGAGE",
  "LEFT MULTIMAPiNORMAL FACTOR SEMIDIRECT PRODUCT",
  "LEFT ONE EIGHTH BLOCKmQUARTER BLOCKqUTER JOINkPARENTHESISa EXTENSIONjLOWER HOOKkUPPER HOOK",
  "LEFT RAISED OMISSION BRACKETwIGHT ARROWa THROUGH SMALL CIRCLEuWITH DOUBLE VERTICAL STROKE",
  "LEFT RIGHT ARROW WITH STROKEgVERTICAL STROKE",
  "LEFT RIGHT BLACK ARROWlDOUBLE ARROWa WITH STROKEgVERTICAL STROKE",
  "LEFT RIGHT OPEN-HEADED ARROWrSANS-SERIF ARROWqTRIANGLE-HEADED ARROWvWAVE ARROWjHITE ARROW",
  "LEFT S-SHAPED BAG DELIMITERvEMIDIRECT PRODUCTqVEN EIGHTHS BLOCKsIDEWAYS U BRACKET",
  "LEFT SINGLE QUOTATION MARKuPEECH BUBBLEmQUARE BRACKETa EXTENSIONjLOWER CORNERmUPPER CORNER",
  "LEFT SQUARE BRACKET WITH DOUBLE STROKEnQUILLfSTROKEgTICK IN BOTTOM CORNERnTOP CORNERsUNDERBAR",
  "LEFT SUBSTITUTION BRACKETuTACKdHIRD WHITE RIGHT POINTING INDEX",
  "LEFT THOUGHT BUBBLEmREE EIGHTHS BLOCKnQUARTERS BLOCKtORTOISE SHELL BRACKET",
  "LEFT TRANSPOSITION BRACKETtIANGLE BESIDE VERTICAL BARwULAR ONE QUARTER BLOCK",
  "LEFT VERTICAL BAR WITH QUILLnOX LINErWHITE CORNER BRACKETnURLY BRACKETnLENTICULAR BRACKET",
  "LEFT WHITE PARENTHESISlSQUARE BRACKEToTORTOISE SHELL BRACKET",
  "LEFT WIGGLY FENCElRITING HANDn-FACING ARMENIAN ETERNITY SIGNwFISTeSVASTI SIGNa WITH DOTS",
  "LEFT-HANDED INTERLACED PENTAGRAM",
  "LEFT-POINTING ANGLE BRACKETnCURVED ANGLE BRACKETuDOUBLE ANGLE QUOTATION MARK",
  "LEFT-POINTING MAGNIFYING GLASSzSHADED WHITE RIGHTWARDS ARROW",
  "LEFT-SIDE ARC ANTICLOCKWISE ARROW",
  "LEFT-TO-RIGHT EMBEDDINGjISOLATEhMARKeOVERRIDEsWARDS ARROWa ABOVE ALMOST EQUAL TO",
  "LEFTWARDS ARROW ABOVE REVERSE ALMOST EQUAL TOpTILDE OPERATORwSHORT RIGHTWARDS ARROW",
  "LEFTWARDS ARROW ABOVE TILDE OPERATORtND UPPER AND LOWER ONE EIGHTH BLOCK",
  "LEFTWARDS ARROW FROM BARa TO BLACK DIAMONDzOVER RIGHTWARDS ARROWvTHROUGH LESS-THANjSUBSETgX",
  "LEFTWARDS ARROW TO BARa OVER RIGHTWARDS ARROW TO BAR",
  "LEFTWARDS ARROW TO BLACK DIAMONDqWITH DOTTED STEMjUBLE VERTICAL STROKEwEQUILATERAL ARROWHEAD",
  "LEFTWARDS ARROW WITH HOOKeLARGE TRIANGLE ARROWHEADxOOPeMEDIUM TRIANGLE ARROWHEADzNOTCHED TAIL",
  "LEFTWARDS ARROW WITH PLUS BELOWkSMALL EQUILATERAL ARROWHEADvTRIANGLE ARROWHEADxTROKEgTAIL",
  "LEFTWARDS ARROW WITH TAIL WITH DOUBLE VERTICAL STROKEwVERTICAL STROKEyIP DOWNWARDSjUPWARDS",
  "LEFTWARDS ARROW WITH VERTICAL STROKEv-TAILkBACK-TILTED SHADOWED WHITE ARROW",
  "LEFTWARDS BLACK ARROWfCIRCLED WHITE ARROWyOTTOM-SHADED WHITE ARROWzCOMPRESSED ARROW",
  "LEFTWARDS DASHED ARROWlOUBLE ARROWa FROM BARiWITH STROKEgVERTICAL STROKEv-TAILkDASH ARROW",
  "LEFTWARDS FINGER-POST ARROWqRONT-TILTED SHADOWED WHITE ARROW",
  "LEFTWARDS HANDcRPOON OVER RIGHTWARDS HARPOON",
  "LEFTWARDS HARPOON WITH BARB DOWN ABOVE RIGHTWARDS HARPOON WITH BARB DOWN",
  "LEFTWARDS HARPOON WITH BARB DOWN BELOW LONG DASHpFROM BARiTO BARhWARDS",
  "LEFTWARDS HARPOON WITH BARB UP ABOVE LEFTWARDS HARPOON WITH BARB DOWN",
  "LEFTWARDS HARPOON WITH BARB UP ABOVE LONG DASHjRIGHTWARDS HARPOON WITH BARB UP",
  "LEFTWARDS HARPOON WITH BARB UP FROM BARiTO BARhWARDSyEAVY ARROWfCOMPRESSED ARROW",
  "LEFTWARDS LEFT-SHADED WHITE ARROWxOPEN-HEADED ARROWrPAIRED ARROWSnQUADRUPLE ARROW",
  "LEFTWARDS RIGHT-SHADED WHITE ARROWxOCKETgSANS-SERIF ARROWpQUARED ARROWkIGGLE ARROW",
  "LEFTWARDS TOP SHADED WHITE ARROWvRIANGLE ARROWHEADk-HEADED ARROW",
  "LEFTWARDS TRIANGLE-HEADED ARROW OVER RIGHTWARDS TRIANGLE-HEADED ARROW",
  "LEFTWARDS TRIANGLE-HEADED ARROW TO BARgWITH BOLD SHAFTkDOUBLE HORIZONTAL STROKE",
  "LEFTWARDS TRIANGLE-HEADED ARROW WITH DOUBLE VERTICAL STROKEwHEAVY SHAFTlLONG TIP DOWNWARDS",
  "LEFTWARDS TRIANGLE-HEADED ARROW WITH LONG TIP UPWARDSqMEDIUM SHAFTmNARROW SHAFT",
  "LEFTWARDS TRIANGLE-HEADED ARROW WITH VERY HEAVY SHAFT",
  "LEFTWARDS TRIANGLE-HEADED DASHED ARROWmPAIRED ARROWS",
  "LEFTWARDS TRIPLE ARROWfDASH ARROWqWO HEADED ARROWn-HEADED ARROW FROM BAR",
  "LEFTWARDS TWO-HEADED ARROW WITH DOUBLE VERTICAL STROKEwTAILa WITH DOUBLE VERTICAL STROKE",
  "LEFTWARDS TWO-HEADED ARROW WITH TAIL WITH VERTICAL STROKEyRIANGLE ARROWHEADStVERTICAL STROKE",
  "LEFTWARDS TWO-HEADED TRIPLE DASH ARROW",
  "LEFTWARDS WAVE ARROWjHITE ARROWa WITHIN TRIANGLE ARROWHEAD",
  "LEGbMONdOaPARDfPCHA CONSONANT SIGN KaANGeLbMbNaYIN-DOhPbRbTqDIGIT EIGHTfFIVEdOUReNINEeONE",
  "LEPCHA DIGIT SEVENeIXdTHREEeWOdZEROkLETTER AbBAbLAdCAbHAdDAbDAcZAdFAbLAdGAbLAdHAbLAdJAcKAbHA",
  "LEPCHA LETTER KLAdLAcMAbLAdNAbGAcYAdPAbHAcLAdRAcSAbHAdTAbHAcSAbHAdTAbHAeVAcWAcYA",
  "LEPCHA PUNCTUATION CER-WAgNYET THYOOM TA-ROLsTA-ROLfSHOOKa CER-WAzSIGN NUKTAfRAN",
  "LEPCHA SUBJOINED LETTER RAcYAtVOWEL SIGN AAcEbIbOaOcUaU",
  "LESS-THAN ABOVE DOUBLE-LINE EQUAL ABOVE GREATER-THAN",
  "LESS-THAN ABOVE GREATER-THAN ABOVE DOUBLE-LINE EQUAL",
  "LESS-THAN ABOVE LEFTWARDS ARROWpSIMILAR ABOVE GREATER-THANsOR EQUAL",
  "LESS-THAN ABOVE SLANTED EQUAL ABOVE GREATER-THAN ABOVE SLANTED EQUAL",
  "LESS-THAN AND NOT APPROXIMATEpSINGLE-LINE NOT EQUAL TO",
  "LESS-THAN BUT NOT EQUAL TOfIVALENT TOvCLOSED BY CURVEa ABOVE SLANTED EQUAL",
  "LESS-THAN EQUAL TO OR GREATER-THANyOR APPROXIMATElEQUAL TOfIVALENT TOnGREATER-THAN",
  "LESS-THAN OR SLANTED EQUAL TOa WITH DOT ABOVEa RIGHTlINSIDE",
  "LESS-THAN OVER EQUAL TOnSIGNeWITH CIRCLE INSIDEnDOTdQUESTION MARK ABOVE",
  "LEVEL SLIDERlFbIBRAdGATURE OPEN ET ORNAMENTwHT CHECK MARKkEIGHT SPOKED ASTERISK",
  "LIGHT FIVE POINTED BLACK STARsSPOKED ASTERISKtOUR POINTED BLACK CUSPeSTARxGREEK CROSS",
  "LIGHT LEFT TORTOISE SHELL BRACKET ORNAMENT",
  "LIGHT RAILdIGHT TORTOISE SHELL BRACKET ORNAMENT",
  "LIGHT SALTIREgHADEeIX SPOKED ASTERISKtTHREE POINTED BLACK STARxWELVE POINTED BLACK STAR",
  "LIGHT VERTICAL BARmWHITE SQUAREnNINGa MOODa BUBBLEtMBU DIGIT EIGHTfFIVEdOUReNINEeONEdSEVENeIX",
  "LIMBU DIGIT THREEeWOdZEROkEXCLAMATION MARKqLETTER BAbHAdCAbHAdDAbHAdGAbHAcYANeHAcJAbHAdKAbHA",
  "LIMBU LETTER LAcMAcNAbGAdPAbHAdRAcSAbHAcSAdTAbHAcRAdWAcYAaNkQUESTION MARKnSIGN KEMPHRENGjLOO",
  "LIMBU SIGN MUKPHRENGjSA-IiMALL LETTER ANUSVARAiKAcLAcMAcNAbGAdPAcRAcTAoUBJOINED LETTER RAcWA",
  "LIMBU SUBJOINED LETTER YAtVOWEL SIGN AaIbUcEaEcIbOaOcUh-CARRIER LETTERxITED LIABILITY SIGN",
  "LINE FEEDeINTEGRATION NOT INCLUDING THE POLEwWITH RECTANGULAR PATH AROUND POLE",
  "LINE INTEGRATION WITH SEMICIRCULAR PATH AROUND POLE",
  "LINE SEPARATORjTABULATIONa SETpAR A SIGN A028Be100-102g20Bd31Ce301b2b3b4b5b6b7b8b9AbBbCd10b1b2",
  "LINEAR A SIGN A313AbBbCc4b5b6b7b8b9c20b1b2b3b4b5b6b7b8b9c30b1b2b3b4b5b6b7b8b9c40b1b2b3b4b5b6b7",
  "LINEAR A SIGN A348b9c50b1b2b3b4b5b6b7b8b9c60b1b2b3b4b5b6b7b8b9c70b1d400-VASf1-VASf2-VASf3-VAS",
  "LINEAR A SIGN A404-VASf5-VASf6-VASf7-VASf8-VASf9-VASg10-VASf1-VASf2-VASf3-VASf4-VASf5-VAS",
  "LINEAR A SIGN A416-VASf7-VASf8-VASh501b2b3b4b5b6b8b9c10b1b2b3b5b6c20b1b3b4b5b6b7b8b9c30b1b2b4",
  "LINEAR A SIGN A535b6b7b8b9c40b1b2b5b7b8b9c50b1b2b3b4b5b6b7b9c63b4b5b6b8b9c70b1b2b3b4b5b6b7b8b9",
  "LINEAR A SIGN A580b1b2b3b4b5b6b7b8b9c91b2b4b5b6b8d600b1b2b3b4b6b8b9c10b1b2b3b4b5b6b7b8b9c20b1",
  "LINEAR A SIGN A622b3b4b6b7b8b9c34b7b8c40b2b3b4b5b6b8b9c51b2b3b4b5b6b7b8b9c60b1b2b3b4d701 Ad2 B",
  "LINEAR A SIGN A703 Dd4 Ed5 Fd6 Hd7 Jd8 Kd9 Lc-2 L2e3 L3e4 L4e6 L6h10 Wd1 Xd2 Yd3 OMEGAh4 ABB",
  "LINEAR A SIGN A715 BBe7 DDf26 EYYYh32 JEg800b1b2b3b4b5b6b7dB001b2b3b4b5b6b7b8b9c10b1b3b6b7c20",
  "LINEAR A SIGN AB021aFbMc2aFbMc3aMc4b6b7b8b9c30b1b4b7b8b9c40b1b4b5b6b7b8b9c50b1b3b4b5b6b7b8b9",
  "LINEAR A SIGN AB060b1b5b6b7b9c70b3b4b6b7b8b9c80b1b2b5b6b7d118c20b2b3c31AbBd64c71c80b8c91",
  "LINEAR B IDEOGRAM B100 MANf2 WOMANh4 DEERg5 EQUIDgF MAREgM STALLIONl6F EWEfM RAMg7F SHE-GOAT",
  "LINEAR B IDEOGRAM B107M HE-GOATk8F SOWfM BOARh9F COWfM BULLi20 WHEATh1 BARLEYi2 OLIVEh3 SPICE",
  "LINEAR B IDEOGRAM B125 CYPERUSk30 OILf1 WINEg2c40 BRONZEi1 GOLDg2b5 WOOLg6c50b1 HORNg2b3b4b7b8",
  "LINEAR B IDEOGRAM B159 CLOTHi60b1b2 GARMENTj3 ARMOURi4b5b6b7b8b9c70b1b2b3 MONTHh4b6 TREEg7b8b9",
  "LINEAR B IDEOGRAM B180b1b2b3b4b5b9c90b1 HELMETk220 FOOTSTOOLl5 BATHTUBk30 SPEARh1 ARROWh2",
  "LINEAR B IDEOGRAM B233 SWORDh4b6c40 WHEELED CHARIOTr1 CHARIOTj2 CHARIOT FRAMEp3 WHEELh5b6b8b9",
  "LINEAR B IDEOGRAM B251b2b3b4 DARTg5b6b7b8b9eVESSEL B155d200b1b2b3b4b5b6b7b8b9c10b1b2b3b4b5b6b7",
  "LINEAR B IDEOGRAM VESSEL B218b9c21b2b6b7b8b9c50d305uMONOGRAM B127 KAPOg8 KANAKOj33 AREPA",
  "LINEAR B MONOGRAM B135 MERIh56 TURO2j247 DIPTEtSYLLABLE B001 DAe2 ROe3 PAe4 TEe5 TOe6 NAe7 DI",
  "LINEAR B SYLLABLE B008 Ad9 SEf10 Ud1 POe2 SOe3 MEe4 DOe5 MOe6 QAe7 ZAf20 ZOe1 QIe3 MUe4 NE",
  "LINEAR B SYLLABLE B025 A2e6 RUe7 REe8 Id9 PU2g30 NIe1 SAe2 QOe3 RA3f6 JOe7 TIe8 Ed9 PIf40 WI",
  "LINEAR B SYLLABLE B041 SIe2 WOe3 A3e4 KEe5 DEe6 JEe8 NWAg50 PUe1 DUe2 NOe3 RIe4 WAe5 NUe7 JA",
  "LINEAR B SYLLABLE B058 SUe9 TAf60 RAe1 Od2 PTEf5 JUe6 TA2f7 KIe8 RO2f9 TUf70 KOe1 DWEf2 PE",
  "LINEAR B SYLLABLE B073 MIe4 ZEe5 WEe6 RA2f7 KAe8 QEf80 MAe1 KUe5 AUe7 TWEg90 DWOf1 TWO",
  "LINEAR B SYMBOL B018b9c22c34c47b9c56c63b4c79c82b3b6b9rK SYMBOLhED PAPERCLIPSpON FACEhPSaTICK",
  "LIRA SIGNhSU LETTER AaEcBAcCAbHAdDAbZAdEaUcFAcGAbHAdHAbHAdIbJAcKAbHAdLAcMAcNAbGAdOaEcPAbHAdSA",
  "LISU LETTER SHAdTAbHAcONE MYA BOcCYAdJEUdNAcTIgNA POjSAbHAeUaEbHcWAcXAcYAbHAdZAbHA",
  "LISU PUNCTUATION COMMAfFULL STOPyVRE TOURNOIS SIGNrZARDfLAMAeOBSTERfCKa WITH INK PEN",
  "LOCKING-SHIFT ONEdZEROqGICAL ANDa WITH DOT ABOVEhUBLE OVERBARhUNDERBARpHORIZONTAL DASH",
  "LOGICAL AND WITH MIDDLE STEMlUNDERBARrORa OVERLAPPING LOGICAL ANDxWITH DOT ABOVEhUBLE OVERBAR",
  "LOGICAL OR WITH DOUBLE UNDERBARpHORIZONTAL DASHpMIDDLE STEMzLLIPOP",
  "LONG DASH FROM LEFT MEMBER OF DOUBLE VERTICAL",
  "LONG DIVISIONhRUMeLEFT RIGHT ARROWfDOUBLE ARROWsTACKfWARDS ARROWa FROM BARoDOUBLE ARROW",
  "LONG LEFTWARDS DOUBLE ARROW FROM BARvSQUIGGLE ARROWyRIGHT TACKfWARDS ARROWa FROM BAR",
  "LONG RIGHTWARDS DOUBLE ARROWa FROM BARvSQUIGGLE ARROW",
  "LOTION BOTTLEkUSdUDLY CRYING FACEqVE HOTELfLETTERjW ASTERISKiBATTERYgRIGHTNESS SYMBOL",
  "LOW DOUBLE PRIME QUOTATION MARK",
  "LOW KAVYKAa WITH DOTpLINEfER BLADE SCISSORSoFIVE EIGHTHS BLOCKsHALF BLOCKfCIRCLE",
  "LOWER HALF INVERSE WHITE CIRCLEuMEDIUM SHADErLEFT BALLPOINT PEN",
  "LOWER LEFT BLOCK DIAGONAL LOWER MIDDLE LEFT TO LOWER CENTREgRIGHT",
  "LOWER LEFT BLOCK DIAGONAL UPPER CENTRE TO LOWER MIDDLE RIGHTmRIGHTlUPPER MIDDLE RIGHT",
  "LOWER LEFT BLOCK DIAGONAL UPPER LEFT TO LOWER CENTREgMIDDLE RIGHTsUPPER MIDDLE RIGHT",
  "LOWER LEFT BLOCK DIAGONAL UPPER MIDDLE LEFT TO LOWER CENTREgMIDDLE RIGHTmRIGHT",
  "LOWER LEFT CRAYONgFOUNTAIN PENmPAINTBRUSHjENCILgQUADRANT CIRCULAR ARC",
  "LOWER LEFT SEMICIRCULAR ANTICLOCKWISE ARROW",
  "LOWER LEFT TRIANGLEcULAR MEDIUM SHADE",
  "LOWER ONE EIGHTH BLOCKmQUARTER BLOCKrRIGHT BLOCK DIAGONAL LOWER CENTRE TO LOWER MIDDLE RIGHT",
  "LOWER RIGHT BLOCK DIAGONAL LOWER CENTRE TO UPPER MIDDLE RIGHTmRIGHTvLEFT TO LOWER MIDDLE RIGHT",
  "LOWER RIGHT BLOCK DIAGONAL LOWER LEFT TO UPPER CENTREgMIDDLE RIGHT",
  "LOWER RIGHT BLOCK DIAGONAL LOWER MIDDLE LEFT TO UPPER CENTREgMIDDLE RIGHTmRIGHT",
  "LOWER RIGHT BLOCK DIAGONAL UPPER MIDDLE LEFT TO UPPER CENTREgRIGHT",
  "LOWER RIGHT CORNER WITH DOTpDROP-SHADOWED WHITE SQUARE",
  "LOWER RIGHT PENCILgQUADRANT CIRCULAR ARCvSEMICIRCULAR CLOCKWISE ARROW",
  "LOWER RIGHT SHADOWED WHITE CIRCLEgSQUAREvTRIANGLEcULAR MEDIUM SHADE",
  "LOWER SEVEN EIGHTHS BLOCKtTHREE EIGHTHS BLOCKnQUARTERS BLOCKtRIANGULAR ONE QUARTER BLOCK",
  "LOZENGEa DIVIDED BY HORIZONTAL RULE",
  "LREbIbMbOcUGGAGEfNGSeYCIAN LETTER AaNcBaHcDbEaNcGbHbIbJbKaKcLbMaMcNaNcPbQbRbSbTaHbTcUbWbXbZ",
  "LYDIAN LETTER AaNcBbCbDbEaNcFbGbIbKbLaYcMbNaNcObQbRbSaScTaTcUbVbYiTRIANGULAR MARKuING FACE",
  "MACRONeGEbIC WANDhNETeHAJANI ABBREVIATION SIGNrLETTER AbBAbHAdCAbHAdDAbDAbHAdHAdEbGAbHAdHAcI",
  "MAHAJANI LETTER JAbHAdKAbHAdLAcMAcNAbNAcYAdObPAbHAdRAbRAdSAcTAbHAcTAbHAeUbVAiIGATURE SHRI",
  "MAHAJANI SECTION MARKlIGN NUKTAqJONG TILE AUTUMNgBACKcMBOOgCHRYSANTHEMUMnEAST WIND",
  "MAHJONG TILE EIGHT OF BAMBOOShCHARACTERSjIRCLESqFIVE OF BAMBOOShCHARACTERSjIRCLES",
  "MAHJONG TILE FOUR OF BAMBOOShCHARACTERSjIRCLESpGREEN DRAGONmJOKERfNINE OF BAMBOOShCHARACTERS",
  "MAHJONG TILE NINE OF CIRCLESoORTH WINDkONE OF BAMBOOShCHARACTERSjIRCLESnRCHIDgPLUMeRED DRAGON",
  "MAHJONG TILE SEVEN OF BAMBOOShCHARACTERSjIRCLESpIX OF BAMBOOShCHARACTERSjIRCLESnOUTH WIND",
  "MAHJONG TILE SPRINGfUMMERgTHREE OF BAMBOOShCHARACTERSjIRCLESpWO OF BAMBOOShCHARACTERSjIRCLES",
  "MAHJONG TILE WEST WINDiHITE DRAGONlINTERrKASAR ANGKAfEND OF SECTIONoLETTER AbBAcCAcDAcGAcJAcKA",
  "MAKASAR LETTER LAcMAcNAbGAcYAdPAcRAcSAcTAcVAcYAjPASSIMBANGkVOWEL SIGN EbIbObU",
  "MALAYALAM AU LENGTH MARKoDATE MARKiIGIT EIGHTfFIVEdOUReNINEeONEdSEVENeIXdTHREEeWOdZERO",
  "MALAYALAM FRACTION ONE EIGHTHgFIFTHeORTIETHiHALFeONE-HUNDRED-AND-SIXTIETHyQUARTERhSIXTEENTH",
  "MALAYALAM FRACTION ONE TENTHeWENTIETHnTHREE EIGHTIETHSkQUARTERSiSIXTEENTHSkTWENTIETHSzLETTER A",
  "MALAYALAM LETTER AAbIbRCHAIC IIjUcBAbHAdCAbHAbILLU KbLaLaLdMbNaNcRRcYiDAbDAbHAdHAcOT REPHiEaE",
  "MALAYALAM LETTER GAbHAdHAcIaIcJAbHAdKAbHAdLAbLAbLAeMAcNAbGAcNAbNAdYAdOaOcPAbHAdRAbRAdSAbHAcSA",
  "MALAYALAM LETTER TAbHAcTAbHAcTAeUaUcVAbEDIC ANUSVARAnOCALIC LaLcRaRkYAjNUMBER ONE HUNDRED",
  "MALAYALAM NUMBER ONE THOUSANDmTENkSIGN ANUSVARAhVAGRAHAiCANDRABINDUkIRCULAR VIRAMA",
  "MALAYALAM SIGN COMBINING ANUSVARA ABOVEyPARAeVERTICAL BAR VIRAMAsIRAMAeSARGAmVOWEL SIGN AAbIbU",
  "MALAYALAM VOWEL SIGN EaEcIaIcOaOcUaUcVOCALIC LaLcRaR",
  "MALE AND FEMALE SIGNpSIGNeWITH STROKE AND MALE AND FEMALE SIGNySIGNsTESE CROSSlMMOTHfN",
  "MAN AND WOMAN HOLDING HANDSxDANCINGhIN BUSINESS SUIT LEVITATINGyTUXEDOjWITH GUA PI MAOkTURBAN",
  "MANAT SIGNhDAIC AFFRICATION MARKqGEMINATION MARKpLETTER ABbDbGbHbINcKaSAdLbMbNbPbQbRbSaHbZcTaT",
  "MANDAIC LETTER AZcDUSHENNAiHALQAfINbTcKADdUSHENNAoPUNCTUATIONlVOCALIZATION MARKwGO",
  "MANICHAEAN ABBREVIATION MARK ABOVEfBELOWxLETTER AAYINeLEPHeYINeBETHdHETHfDALETHfHAMEDHhFE",
  "MANICHAEAN LETTER GHIMELfIMELfHEaTHeJAYINeHAYINgKAPHdHAPHfLAMEDHgMEMdNUNdPEcQHOPHeOPHeRESH",
  "MANICHAEAN LETTER SADHEdMEKHfHINdSHINfTAWcETHdHAMEDHhWAWdXAPHdOPHeYODHeZAYINeHAYINnNUMBER FIVE",
  "MANICHAEAN NUMBER ONEa HUNDREDlTENcWENTYnPUNCTUATION DOTa WITHIN DOTmUBLE DOT WITHIN DOT",
  "MANICHAEAN PUNCTUATION FLEURONhLINE FILLERlSTAReTWO DOTSuSIGN UDpS SHOEgTELPIECE CLOCK",
  "MANUAL WHEELCHAIRpP SYMBOL FOR LIGHTHOUSEwLE LEAFiRCHEN HEAD MARKjLETTER -AcAbBAcCAbHAdDAbZA",
  "MARCHEN LETTER GAcHAcJAcKAbHAdLAcMAcNAbGAcYAdPAbHAdRAcSAbHAdTAbHAcSAbHAeWAcYAcZAbHAkMARK SHAD",
  "MARCHEN SIGN ANUSVARAiCANDRABINDUpUBJOINED LETTER AbBAcCAbHAdDAbZAdGAcHAcJAcKAbHAdLAcMAcNAbGA",
  "MARCHEN SUBJOINED LETTER NYAdPAbHAdRAcSAbHAdTAbHAcSAbHAeWAcYAcZAbHAuVOWEL SIGN AAcEbIbObU",
  "MARRIAGE SYMBOLmTIAL ARTS UNIFORMsSARAM GONDI DIGIT EIGHTfFIVEdOUReNINEeONEdSEVENeIXdTHREEeWO",
  "MASARAM GONDI DIGIT ZEROkLETTER AaAbIbUcBAbHAdCAbHAdDAbDAbHAdHAdEbGAbHAdHAcIaIcJAbHAcNYAeKAbHA",
  "MASARAM GONDI LETTER KSSAeLAbLAdMAcNAbGAcNAcYAdObPAbHAdRAcSAbHAcSAdTAbHAcRAcTAbHAeUaUcVAcYA",
  "MASARAM GONDI RA-KARAgEPHAfSIGN ANUSVARAiCANDRAgHALANTAhNUKTAfVISARGAmVIRAMAfOWEL SIGN AAbIbU",
  "MASARAM GONDI VOWEL SIGN EbIaIcObUaUcVOCALIC R",
  "MASCULINE ORDINAL INDICATORyK WORK SYMBOLnU MARKhTE DRINKhHEMATICAL BOLD CAPITAL AaLPHAfBaETA",
  "MATHEMATICAL BOLD CAPITAL CaHIdDaELTAeIGAMMAhEaPSILONgTAdFbGaAMMAfHbIaOTAeJbKaAPPAfLaAMDAfMaU",
  "MATHEMATICAL BOLD CAPITAL NaUcOaMEGAdICRONhPaHIcIbSIdQbRaHOdSaIGMAfTaAUcHETAa SYMBOLmUaPSILON",
  "MATHEMATICAL BOLD CAPITAL VbWbXaIcYbZaETAmDIGIT EIGHTfFIVEdOUReNINEeONEdSEVENeIXdTHREEeWOdZERO",
  "MATHEMATICAL BOLD EPSILON SYMBOLoFRAKTUR CAPITAL AbBbCbDbEbFbGbHbIbJbKbLbMbNbObPbQbRbSbTbUbVbW",
  "MATHEMATICAL BOLD FRAKTUR CAPITAL XbYbZjSMALL AbBbCbDbEbFbGbHbIbJbKbLbMbNbObPbQbRbSbTbUbVbWbX",
  "MATHEMATICAL BOLD FRAKTUR SMALL YbZpITALIC CAPITAL AaLPHAfBaETAeCaHIdDaELTAfEaPSILONgTAdFbG",
  "MATHEMATICAL BOLD ITALIC CAPITAL GAMMAfHbIaOTAeJbKaAPPAfLaAMDAfMaUcNaUcOaMEGAdICRONhPaHIcIbSI",
  "MATHEMATICAL BOLD ITALIC CAPITAL QbRaHOdSaIGMAfTaAUcHETAa SYMBOLmUaPSILONhVbWbXaIcYbZaETA",
  "MATHEMATICAL BOLD ITALIC EPSILON SYMBOLoKAPPA SYMBOLmNABLAfPARTIAL DIFFERENTIALtHI SYMBOL",
  "MATHEMATICAL BOLD ITALIC PI SYMBOLjRHO SYMBOLkSMALL AaLPHAfBaETAeCaHIdDaELTAfEaPSILONgTAdF",
  "MATHEMATICAL BOLD ITALIC SMALL FINAL SIGMAlGaAMMAfHbIaOTAeJbKaAPPAfLaAMDAfMaUcNaUcOaMEGAdICRON",
  "MATHEMATICAL BOLD ITALIC SMALL PaHIcIbSIdQbRaHOdSaIGMAfTaAUcHETAfUaPSILONhVbWbXaIcYbZaETA",
  "MATHEMATICAL BOLD ITALIC THETA SYMBOLtKAPPA SYMBOLmNABLAfPARTIAL DIFFERENTIALtHI SYMBOL",
  "MATHEMATICAL BOLD PI SYMBOLjRHO SYMBOLkSCRIPT CAPITAL AbBbCbDbEbFbGbHbIbJbKbLbMbNbObPbQbRbSbT",
  "MATHEMATICAL BOLD SCRIPT CAPITAL UbVbWbXbYbZjSMALL AbBbCbDbEbFbGbHbIbJbKbLbMbNbObPbQbRbSbTbUbV",
  "MATHEMATICAL BOLD SCRIPT SMALL WbXbYbZnMALL AaLPHAfBaETAeCaHIdDaELTAeIGAMMAhEaPSILONgTAdF",
  "MATHEMATICAL BOLD SMALL FINAL SIGMAlGaAMMAfHbIaOTAeJbKaAPPAfLaAMDAfMaUcNaUcOaMEGAdICRONhPaHIcI",
  "MATHEMATICAL BOLD SMALL PSIdQbRaHOdSaIGMAfTaAUcHETAfUaPSILONhVbWbXaIcYbZaETAkTHETA SYMBOL",
  "MATHEMATICAL DOUBLE-STRUCK CAPITAL AbBbDbEbFbGbIbJbKbLbMbObSbTbUbVbWbXbYjDIGIT EIGHTfFIVEdOUR",
  "MATHEMATICAL DOUBLE-STRUCK DIGIT NINEeONEdSEVENeIXdTHREEeWOdZEROkSMALL AbBbCbDbEbFbGbHbIbJbKbL",
  "MATHEMATICAL DOUBLE-STRUCK SMALL MbNbObPbQbRbSbTbUbVbWbXbYbZvFALLING DIAGONALpRAKTUR CAPITAL A",
  "MATHEMATICAL FRAKTUR CAPITAL BbDbEbFbGbJbKbLbMbNbObPbQbSbTbUbVbWbXbYjSMALL AbBbCbDbEbFbGbHbIbJ",
  "MATHEMATICAL FRAKTUR SMALL KbLbMbNbObPbQbRbSbTbUbVbWbXbYbZpITALIC CAPITAL AaLPHAfBaETAeCaHIdD",
  "MATHEMATICAL ITALIC CAPITAL DELTAfEaPSILONgTAdFbGaAMMAfHbIaOTAeJbKaAPPAfLaAMDAfMaUcNaUcOaMEGA",
  "MATHEMATICAL ITALIC CAPITAL OMICRONhPaHIcIbSIdQbRaHOdSaIGMAfTaAUcHETAa SYMBOLmUaPSILONhVbWbXaI",
  "MATHEMATICAL ITALIC CAPITAL YbZaETAmEPSILON SYMBOLoKAPPA SYMBOLmNABLAfPARTIAL DIFFERENTIAL",
  "MATHEMATICAL ITALIC PHI SYMBOLjI SYMBOLjRHO SYMBOLkSMALL AaLPHAfBaETAeCaHIdDaELTAeOTLESS IbJjE",
  "MATHEMATICAL ITALIC SMALL EPSILONgTAdFaINAL SIGMAlGaAMMAfIaOTAeJbKaAPPAfLaAMDAfMaUcNaUcOaMEGA",
  "MATHEMATICAL ITALIC SMALL OMICRONhPaHIcIbSIdQbRaHOdSaIGMAfTaAUcHETAfUaPSILONhVbWbXaIcYbZaETA",
  "MATHEMATICAL ITALIC THETA SYMBOLtLEFT ANGLE BRACKETnDOUBLE ANGLE BRACKETuFLATTENED PARENTHESIS",
  "MATHEMATICAL LEFT WHITE SQUARE BRACKEToTORTOISE SHELL BRACKET",
  "MATHEMATICAL MONOSPACE CAPITAL AbBbCbDbEbFbGbHbIbJbKbLbMbNbObPbQbRbSbTbUbVbWbXbYbZjDIGIT EIGHT",
  "MATHEMATICAL MONOSPACE DIGIT FIVEdOUReNINEeONEdSEVENeIXdTHREEeWOdZEROkSMALL AbBbCbDbEbFbGbHbI",
  "MATHEMATICAL MONOSPACE SMALL JbKbLbMbNbObPbQbRbSbTbUbVbWbXbYbZrRIGHT ANGLE BRACKET",
  "MATHEMATICAL RIGHT DOUBLE ANGLE BRACKETuFLATTENED PARENTHESISvWHITE SQUARE BRACKET",
  "MATHEMATICAL RIGHT WHITE TORTOISE SHELL BRACKET",
  "MATHEMATICAL RISING DIAGONALpSANS-SERIF BOLD CAPITAL AaLPHAfBaETAeCaHIdDaELTAfEaPSILONgTAdFbG",
  "MATHEMATICAL SANS-SERIF BOLD CAPITAL GAMMAfHbIaOTAeJbKaAPPAfLaAMDAfMaUcNaUcOaMEGAdICRONhPaHIcI",
  "MATHEMATICAL SANS-SERIF BOLD CAPITAL PSIdQbRaHOdSaIGMAfTaAUcHETAa SYMBOLmUaPSILONhVbWbXaIcYbZ",
  "MATHEMATICAL SANS-SERIF BOLD CAPITAL ZETAmDIGIT EIGHTfFIVEdOUReNINEeONEdSEVENeIXdTHREEeWOdZERO",
  "MATHEMATICAL SANS-SERIF BOLD EPSILON SYMBOLoITALIC CAPITAL AaLPHAfBaETAeCaHIdDaELTAfEaPSILON",
  "MATHEMATICAL SANS-SERIF BOLD ITALIC CAPITAL ETAdFbGaAMMAfHbIaOTAeJbKaAPPAfLaAMDAfMaUcNaUcO",
  "MATHEMATICAL SANS-SERIF BOLD ITALIC CAPITAL OMEGAdICRONhPaHIcIbSIdQbRaHOdSaIGMAfTaAUcHETA",
  "MATHEMATICAL SANS-SERIF BOLD ITALIC CAPITAL THETA SYMBOLmUaPSILONhVbWbXaIcYbZaETA",
  "MATHEMATICAL SANS-SERIF BOLD ITALIC EPSILON SYMBOLoKAPPA SYMBOLmNABLAfPARTIAL DIFFERENTIAL",
  "MATHEMATICAL SANS-SERIF BOLD ITALIC PHI SYMBOLjI SYMBOLjRHO SYMBOLkSMALL AaLPHAfBaETAeCaHIdD",
  "MATHEMATICAL SANS-SERIF BOLD ITALIC SMALL DELTAfEaPSILONgTAdFaINAL SIGMAlGaAMMAfHbIaOTAeJbK",
  "MATHEMATICAL SANS-SERIF BOLD ITALIC SMALL KAPPAfLaAMDAfMaUcNaUcOaMEGAdICRONhPaHIcIbSIdQbRaHOdS",
  "MATHEMATICAL SANS-SERIF BOLD ITALIC SMALL SIGMAfTaAUcHETAfUaPSILONhVbWbXaIcYbZaETA",
  "MATHEMATICAL SANS-SERIF BOLD ITALIC THETA SYMBOLtKAPPA SYMBOLmNABLAfPARTIAL DIFFERENTIAL",
  "MATHEMATICAL SANS-SERIF BOLD PHI SYMBOLjI SYMBOLjRHO SYMBOLkSMALL AaLPHAfBaETAeCaHIdDaELTAfE",
  "MATHEMATICAL SANS-SERIF BOLD SMALL EPSILONgTAdFaINAL SIGMAlGaAMMAfHbIaOTAeJbKaAPPAfLaAMDAfMaU",
  "MATHEMATICAL SANS-SERIF BOLD SMALL NaUcOaMEGAdICRONhPaHIcIbSIdQbRaHOdSaIGMAfTaAUcHETAfUaPSILON",
  "MATHEMATICAL SANS-SERIF BOLD SMALL VbWbXaIcYbZaETAkTHETA SYMBOLrCAPITAL AbBbCbDbEbFbGbHbIbJbK",
  "MATHEMATICAL SANS-SERIF CAPITAL LbMbNbObPbQbRbSbTbUbVbWbXbYbZjDIGIT EIGHTfFIVEdOUReNINEeONE",
  "MATHEMATICAL SANS-SERIF DIGIT SEVENeIXdTHREEeWOdZEROkITALIC CAPITAL AbBbCbDbEbFbGbHbIbJbKbLbM",
  "MATHEMATICAL SANS-SERIF ITALIC CAPITAL NbObPbQbRbSbTbUbVbWbXbYbZjSMALL AbBbCbDbEbFbGbHbIbJbKbL",
  "MATHEMATICAL SANS-SERIF ITALIC SMALL MbNbObPbQbRbSbTbUbVbWbXbYbZoSMALL AbBbCbDbEbFbGbHbIbJbKbL",
  "MATHEMATICAL SANS-SERIF SMALL MbNbObPbQbRbSbTbUbVbWbXbYbZrCRIPT CAPITAL AbCbDbGbJbKbNbObPbQbS",
  "MATHEMATICAL SCRIPT CAPITAL TbUbVbWbXbYbZjSMALL AbBbCbDbFbHbIbJbKbLbMbNbPbQbRbSbTbUbVbWbXbYbZ",
  "MAXIMIZEgYAN NUMERAL EIGHTaEENhLEVENgFIFTEENfVEdOURaTEENiNINEaTEENiONEdSEVENaTEENiIXaTEENhTEN",
  "MAYAN NUMERAL THIRTEENgREEeWELVEeOdZEROrEASURED ANGLEa OPENING LEFT",
  "MEASURED ANGLE WITH OPEN ARM ENDING IN ARROW POINTING DOWN AND LEFTeRIGHToLEFT AND DOWNeUP",
  "MEASURED ANGLE WITH OPEN ARM ENDING IN ARROW POINTING RIGHT AND DOWNeUPmUP AND LEFTeRIGHT",
  "MEASURED BYcRIGHT ANGLE WITH DOT",
  "MEAT ON BONEkCHANICAL ARMdLEGmDEFAIDRIN CAPITAL LETTER AaIbTIUeBbCbDbEbFbGbHaPcIbJbKaPcLbMbNaG",
  "MEDEFAIDRIN CAPITAL LETTER NYcOaEcPbQbRbSbTbUbVbWbXbYaUcZpOMMAfDIGIT EIGHTfFIVEdOUReNINEeONE",
  "MEDEFAIDRIN DIGIT ONE ALTERNATE FORMsSEVENeIXdTHREEa ALTERNATE FORMtWOa ALTERNATE FORMsZERO",
  "MEDEFAIDRIN EXCLAMATION OHoFULL STOPjNUMBER EIGHTEENhLEVENgFIFTEENgOURTEENiNINETEENiSEVENTEEN",
  "MEDEFAIDRIN NUMBER SIXTEENhTENcHIRTEENhWELVEnSMALL LETTER AaIbTIUeBbCbDbEbFbGbHaPcIbJbKaPcLbM",
  "MEDEFAIDRIN SMALL LETTER NaGbYcOaEcPbQbRbSbTbUbVbWbXbYaUcZnYMBOL AIVAuIEVAL COMMA",
  "MEDIEVAL EXCLAMATION MARKqQUESTION MARKsUM BLACK CIRCLElOLD WHITE CIRCLE",
  "MEDIUM EIGHT POINTED BLACK STARsSPOKED ASTERISKvFIVE SPOKED ASTERISK",
  "MEDIUM FLATTENED LEFT PARENTHESIS ORNAMENTzRIGHT PARENTHESIS ORNAMENT",
  "MEDIUM FOUR POINTED BLACK STARkPINWHEEL STAR",
  "MEDIUM GREEK CROSSlLEFT CURLY BRACKET ORNAMENTwPARENTHESIS ORNAMENT",
  "MEDIUM LEFT-POINTING ANGLE BRACKET ORNAMENT",
  "MEDIUM MATHEMATICAL SPACEsRIGHT CURLY BRACKET ORNAMENTwPARENTHESIS ORNAMENT",
  "MEDIUM RIGHT-POINTING ANGLE BRACKET ORNAMENT",
  "MEDIUM SALTIREgHADEeIX POINTED BLACK STARsSPOKED ASTERISKsMALL WHITE CIRCLE",
  "MEDIUM THREE POINTED BLACK STARkPINWHEEL STAR",
  "MEDIUM VERTICAL BARmWHITE CIRCLEgSQUARErETEI MAYEK AHANG KHUDAMlNJIdPUN IYEKjCHEIKHANcEI",
  "MEETEI MAYEK DIGIT EIGHTfFIVEdOUReNINEeONEdSEVENeIXdTHREEeWOdZEROkLETTER ATIYAfBAbHAMeCHAbIL",
  "MEETEI MAYEK LETTER DDAbHAdHOUdILdEbGHOUdOKdHUKdIa LONSUMiJHAMdILdKHOUdOKa LONSUMkLAIa LONSUM",
  "MEETEI MAYEK LETTER MITa LONSUMkNAa LONSUMiGOUa LONSUMkNAcYAdObPAa LONSUMiHAMeRAIdSAMcHAcSA",
  "MEETEI MAYEK LETTER THOUdILa LONSUMjTAbHAeUNcWAIdYANGkUM IYEKiSYLLABLE REPETITION MARKyVIRAMA",
  "MEETEI MAYEK VOWEL SIGN AAIbUcNAPdUcCHEINAPhIIbNAPeNUNGeONAPeSOUNAPgUNAPdUcVISARGAhYENAP",
  "MEETEI MAYEK WORD REPETITION MARK",
  "MELONcTING FACEkMOcNDE KIKAKUI COMBINING NUMBER HUNDRED THOUSANDSkSiMILLIONSiTEENSdN THOUSANDS",
  "MENDE KIKAKUI COMBINING NUMBER TENSdHOUSANDS",
  "MENDE KIKAKUI DIGIT EIGHTfFIVEdOUReNINEeONEdSEVENeIXdTHREEeWOjSYLLABLE M001 KIe2 KAe3 KUe4 WI",
  "MENDE KIKAKUI SYLLABLE M005 WAe6 WUe7 MINf8 MANf9 MUNg10 BIe1 BAe2 BUe3 Id4 Ad5 Ud6 DIe7 DA",
  "MENDE KIKAKUI SYLLABLE M018 DUe9 SIf20 SAe1 SUe2 TIe3 TAe4 TUe5 LIe6 LAe7 LUe8 JIe9 JAf30 JU",
  "MENDE KIKAKUI SYLLABLE M031 YIe2 YAe3 YUe4 FIe5 FAe6 FUe7 NINf8 NANf9 NUNg40 HEEf1 HAe2 HOO",
  "MENDE KIKAKUI SYLLABLE M043 NGGAg4 KPEEg5 WOe6 HUANg7 MBEEg8 KOe9 WVAg50 PUe1 PEe2 HENf3 HIN",
  "MENDE KIKAKUI SYLLABLE M054 LOOf5 TEe6 GBAf7 NGONg8 NYANg9 MENg60 NYONg1 WVIf2 MBAf3 JOe4 NDO",
  "MENDE KIKAKUI SYLLABLE M065 KEEf6 POe7 NDOOg8 PIe9 TOf70 GBOf1 GBOOg2 MBEf3 LEe4 KPUf5 FE",
  "MENDE KIKAKUI SYLLABLE M076 KOOf7 VOe8 FEEf9 SOf80 YEe1 PEEf2 NGGUg3 HEEIg4 LEEf5 VE",
  "MENDE KIKAKUI SYLLABLE M086 LONG NGGEl7 HUNf8 FOe9 DEEg90 NGGIg1 TEEf2 KPAf3 GBEEg4 MONf5 KE",
  "MENDE KIKAKUI SYLLABLE M096 HEe7 BEe8 NYENg9 PAg100 Ed1 FANf2 POOf3 BOOf4 TOOf5 LONG MBOO",
  "MENDE KIKAKUI SYLLABLE M106 LONG NGGOOm7 GBEf8 KPEf9 YEEg10 LONG LEj1 GAe2 KPOOg3 JEe4 WOO",
  "MENDE KIKAKUI SYLLABLE M115 NGGEEh6 SEe7 NENf8 WEe9 NDEg20 NGGOg1 YOe2 MBUf3 NDIf4 GBIf5 NDU",
  "MENDE KIKAKUI SYLLABLE M126 WEEf7 NGGUAh8 HOOUg9 NDAg30 HANf1 INe2 KPIf3 FOOf4 NJOOg5 INe6 SOO",
  "MENDE KIKAKUI SYLLABLE M137 EIe8 BOe9 WVEg40 HOe1 YOOf2 LONG MBOk3 WEIf4 VOOf5 MBIf6 NGGEg7 O",
  "MENDE KIKAKUI SYLLABLE M148 GBUf9 NJEEh50 BEEf1 VUe2 NJAf3 LOe4 MUANg5 GIe6 NGGOOh7 JEEf8 KPO",
  "MENDE KIKAKUI SYLLABLE M159 NGGAAi60 JOOf1 LONG MBEk2 SEEf3 EEe4 NYINg5 OOe6 GUEIg7 GUANg8 GU",
  "MENDE KIKAKUI SYLLABLE M169 NONg70 NYUNg1 RAe2 MBOOg3 VEEf4 MBOf5 LONG JOj6 HIe7 NGUANh8 EN",
  "MENDE KIKAKUI SYLLABLE M179 KUAg80 DOOf1 DOe2 VIe3 LONG NGGOl4 NGENg5 VAe6 HUe7 MBUUg8 MBEE",
  "MENDE KIKAKUI SYLLABLE M189 MUENh90 GEEf1 NDEEg2 NJUf3 HONf4 WUIf5 ANe6 SIAf7 FUA",
  "MENORAH WITH NINE BRANCHESxS SYMBOLjRCURYeOITIC CURSIVE FRACTION EIGHT TWELFTHSnLEVEN TWELFTHS",
  "MEROITIC CURSIVE FRACTION FIVE TWELFTHSmOUR TWELFTHSnNINE TWELFTHSnONE HALFeTWELFTH",
  "MEROITIC CURSIVE FRACTION SEVEN TWELFTHSnIX TWELFTHSmTEN TWELFTHSlHREE TWELFTHSnWO TWELFTHS",
  "MEROITIC CURSIVE LETTER AaRCHAIC SAkBAcDAcEbHHAdIbKAbHAdLAcMAcNAbEcObPAcQAcRAcSAbEcTAbEbOcWA",
  "MEROITIC CURSIVE LETTER YAiOGOGRAM IMNdRMTmNUMBER EIGHTa HUNDREDa THOUSANDqTHOUSANDjY THOUSAND",
  "MEROITIC CURSIVE NUMBER FIFTYa THOUSANDmVEa HUNDREDa THOUSANDqTHOUSANDmORTYa THOUSANDmUR",
  "MEROITIC CURSIVE NUMBER FOUR HUNDREDa THOUSANDqTHOUSANDnNINEa HUNDREDa THOUSANDqTHOUSAND",
  "MEROITIC CURSIVE NUMBER NINETY THOUSANDpONEa HUNDREDa THOUSANDqTHOUSANDmSEVENa HUNDRED",
  "MEROITIC CURSIVE NUMBER SEVEN HUNDRED THOUSANDqTHOUSANDjTYa THOUSANDpIXa HUNDREDa THOUSAND",
  "MEROITIC CURSIVE NUMBER SIX THOUSANDjTYa THOUSANDoTENa THOUSANDlHIRTYa THOUSANDnREEa HUNDRED",
  "MEROITIC CURSIVE NUMBER THREE HUNDRED THOUSANDqTHOUSANDnWENTYa THOUSANDnOa HUNDREDa THOUSAND",
  "MEROITIC CURSIVE NUMBER TWO THOUSAND",
  "MEROITIC HIEROGLYPHIC LETTER AbBAa-2eDAcEbHHAdIbKAbHAdLAcMAcNAa-2dEa-2eObPAcQAcRAa-2eSAa-2dE",
  "MEROITIC HIEROGLYPHIC LETTER TAa-2dEa-2dOcWAcYAjSYMBOL VIDJa-2",
  "MERPERSONhSSAGE WAITINGnTRICAL BREVEfLONG OVER SHORTfTWO SHORTSuPENTASEMEjSHORT OVER LONG",
  "METRICAL TETRASEMEiRISEMEgWO SHORTS JOINEDgOVER LONGzOeIAO LETTER AHbRCHAIC MAcNAbGAdZZAlBAbRI",
  "MIAO LETTER DAbDAcLHAbYAeZAbHAcYIcZAeFAcGAbHAbHAeHAbHAdKAcLAbHAbYAdYAdMAbHAdNAaSALIZATIONlGA",
  "MIAO LETTER NGHAdHAcNAbHAdYAbHAePAbLAdQAbGAdREFORMED TONE-1b2b4b5b6b8fSHAmTEdSAbHAcSAcYIdTAbE",
  "MIAO LETTER TLHAbYAeONE-2b3b4b5b6b7b8fSAbEbHAcSAdTAdVAbFAdWAcXAcYI DZHAeKAcNNAdPAcTAbSAbHAdTA",
  "MIAO LETTER ZAbHAcSAbHAdZAbSAbYAdYAlSIGN ASPIRATIONkCONSONANT MODIFIER BARwREFORMED ASPIRATION",
  "MIAO SIGN REFORMED VOICINGvTONE ABOVEfBELOWfRIGHTfTOP RIGHToVOWEL SIGN AaAbEaEcHHcIbNaGcUcEaA",
  "MIAO VOWEL SIGN EIbNaGcRaRdIaAaNaGdEbGbIbNGcOaNGdUcNaGcOaERbYcGbObUcROUNDED ERaRlUaAaNaGdEIcI",
  "MIAO VOWEL SIGN UNGcOGcUcVWcWaOcYaIbUIrCR DASH SYMBOLlON US SYMBOLnO SIGNfBEcPHONEfSCOPE",
  "MIDDLE DOTdTHIRD WHITE RIGHT POINTING INDEX",
  "MIDLINE HORIZONTAL ELLIPSISzLITARY HELMETgMEDALlKY WAYgL SIGNhNIBUSdDISCeMIZEfUS SIGN",
  "MINUS SIGN IN TRIANGLElWITH COMMA ABOVElDOT BELOWjFALLING DOTSmRISING DOTSvTILDEg-OR-PLUS SIGN",
  "MINYcRRORa BALLkMSPdOBILE PHONEa OFFdWITH RIGHTWARDS ARROW AT LEFT",
  "MODELScRN PENTATHLONoI ABBREVIATION SIGNrDANDAeIGIT EIGHTfFIVEdOUReNINEeONEdSEVENeIXdTHREEeWO",
  "MODI DIGIT ZEROjOUBLE DANDAmLETTER AaAbIbUcBAbHAdCAbHAdDAbDAbHAdHAdEbGAbHAdHAcIaIcJAbHAdKAbHA",
  "MODI LETTER LAbLAdMAcNAbGAcNAcYAdObPAbHAdRAcSAbHAcSAdTAbHAcTAbHAeUaUcVAbOCALIC LaLcRaRkYA",
  "MODI SIGN ANUSVARAhRDHACANDRAlHUVAeVIRAMAeSARGAmVOWEL SIGN AAbIbUcEbIaIcObUaUcVOCALIC LaLcRaR",
  "MODIFIER BREVE WITH INVERTED BREVEzLETTER ACUTE ACCENTlLVEOLAR CLICKnPOSTROPHEkBEGIN HIGH TONE",
  "MODIFIER LETTER BEGIN LOW TONEnILABIAL CLICKoCAPITAL AaEcBaARRED BiCbDbEbFbGbHa WITH STROKEnI",
  "MODIFIER LETTER CAPITAL JbKbLbMbNbOaUcPbQbRaEVERSED EbNkTbUbVbWiENTRED LEFT HALF RING",
  "MODIFIER LETTER CENTRED RIGHT HALF RINGwHINESE TONE YANG PINGeQUcRUcSHANGjIN PINGeQUcRUcSHANG",
  "MODIFIER LETTER CIRCUMFLEX ACCENTqOLONeROSS ACCENTlYRILLIC ENcHARD SIGNjSOFT SIGNsDENTAL CLICK",
  "MODIFIER LETTER DOT HORIZONTAL BARoSLASHfVERTICAL BARoUBLE APOSTROPHEkPRIMEkWN ARROWHEADjTACK",
  "MODIFIER LETTER END HIGH TONEjLOW TONElXTRA-HIGH DOTTED LEFT-STEM TONE BARsTONE BAR",
  "MODIFIER LETTER EXTRA-HIGH LEFT-STEM TONE BARsTONE BARnLOW DOTTED LEFT-STEM TONE BARsTONE BAR",
  "MODIFIER LETTER EXTRA-LOW LEFT-STEM TONE BARsTONE BARsGEORGIAN NARlLOTTAL STOPa WITH STROKE",
  "MODIFIER LETTER GRAVE ACCENTmHALF TRIANGULAR COLONuIGH DOTTED LEFT-STEM TONE BARsTONE BAR",
  "MODIFIER LETTER HIGH LEFT-STEM TONE BARsTONE BARnLATERAL CLICKmEFT ARROWHEADjHALF RINGjTACK",
  "MODIFIER LETTER LOW ACUTE ACCENTmCIRCUMFLEX ACCENTrDOTTED LEFT-STEM TONE BARsTONE BAR",
  "MODIFIER LETTER LOW DOWN ARROWHEADoGRAVE ACCENTmINVERTED EXCLAMATION MARKzLEFT ARROWaHEAD",
  "MODIFIER LETTER LOW LEFT-STEM TONE BARsMACRONgRIGHT ARROWHEADnNGeTILDEeONE BARiUP ARROWHEAD",
  "MODIFIER LETTER LOW VERTICAL LINEoER RIGHT CORNER ANGLEyMACRONfID DOTTED LEFT-STEM TONE BAR",
  "MODIFIER LETTER MID DOTTED TONE BARpLEFT-STEM TONE BARsTONE BARjDLE DOUBLE ACUTE ACCENT",
  "MODIFIER LETTER MIDDLE DOUBLE GRAVE ACCENTtGRAVE ACCENTrNUS SIGNkOPEN SHELFkPLUS SIGNiRIME",
  "MODIFIER LETTER RAISED COLONfDOWN ARROWkEXCLAMATION MARKqINVERTED EXCLAMATION MARKzUP ARROW",
  "MODIFIER LETTER RETROFLEX CLICK WITH RETROFLEX HOOK",
  "MODIFIER LETTER REVERSED COMMAfGLOTTAL STOPa WITH STROKE",
  "MODIFIER LETTER RHOTIC HOOKkIGHT ARROWHEADjHALF RINGjTACKkSHELFdORT EQUALS SIGNqMALL AaEbIN",
  "MODIFIER LETTER SMALL ALPHAfBa WITH HOOKkARRED OhETAdOTTOM HALF OnCa WITH CURLkAPITAL AAcBbG",
  "MODIFIER LETTER SMALL CAPITAL G WITH HOOKlHbIa WITH STROKEmNVERTED RkLa WITH BELTlNbOEcRbUbY",
  "MODIFIER LETTER SMALL CHIcLOSED OMEGAfREVERSED OPEN EwDa WITH HOOKa AND TAILnTAILkELTA",
  "MODIFIER LETTER SMALL DEZH DIGRAPHlOTLESS J WITH STROKEa AND HOOK",
  "MODIFIER LETTER SMALL DZ DIGRAPHa WITH CURLeRETROFLEX HOOK",
  "MODIFIER LETTER SMALL EaNGcSHcTHcZHdFaENG DIGRAPHmGa WITH HOOKkAMMAeREEK GAMMAfPHIjH",
  "MODIFIER LETTER SMALL H WITH HOOKeSTROKEmENGa WITH HOOKoI WITH STROKEmOTAeJa WITH CROSSED-TAIL",
  "MODIFIER LETTER SMALL KbLa WITH BELTeINVERTED LAZY SpMIDDLE TILDEmPALATAL HOOKmRETROFLEX HOOK",
  "MODIFIER LETTER SMALL L WITH RETROFLEX HOOK AND BELT",
  "MODIFIER LETTER SMALL LEZHa WITH RETROFLEX HOOKxIGATURE OEkS DIGRAPHjZ DIGRAPHkMa WITH HOOK",
  "MODIFIER LETTER SMALL N WITH LEFT HOOKjRETROFLEX HOOKvOa WITH STROKEmPEN EbOgPaHIdQbR",
  "MODIFIER LETTER SMALL R WITH FISHHOOKiTAILkAMS HORNiEVERSED EbGLOTTAL STOPmOPEN EpSa WITH CURL",
  "MODIFIER LETTER SMALL S WITH HOOKkCHWAdRIPT GhIDEWAYS UkTa WITH PALATAL HOOKmRETROFLEX HOOK",
  "MODIFIER LETTER SMALL TC DIGRAPH WITH CURLtESH DIGRAPHlHETAeOP HALF OjS DIGRAPH",
  "MODIFIER LETTER SMALL TS DIGRAPH WITH RETROFLEX HOOK",
  "MODIFIER LETTER SMALL TURNED AaEbLPHAfHbIbMa WITH LONG LEGpOPEN EgRa WITH HOOKeLONG LEG",
  "MODIFIER LETTER SMALL TURNED R WITH LONG LEG AND RETROFLEX HOOK",
  "MODIFIER LETTER SMALL TURNED VbWbYa WITH BELTsUa BARdWITH LEFT HOOKpPSILONhVa WITH HOOK",
  "MODIFIER LETTER SMALL V WITH RIGHT HOOKrWbXbYbZa WITH CURLeRETROFLEX HOOK",
  "MODIFIER LETTER STRESS AND HIGH TONEjLOW TONEsUPERSCRIPT HALF TRIANGULAR COLON",
  "MODIFIER LETTER SUPERSCRIPT TRIANGULAR COLON",
  "MODIFIER LETTER TRIANGULAR COLONpURNED COMMAmUNASPIRATEDkP ARROWHEADjTACKgScVERTICAL LINE",
  "MODIFIER LETTER VOICINGhYANG DEPARTING TONE MARKxIN DEPARTING TONE MARK",
  "MODULO TWO SUMmNEY BAGdWITH WINGSl-MOUTH FACEnGOLIAN BIRGAa WITH DOUBLE ORNAMENTpORNAMENT",
  "MONGOLIAN COLONdMMAfDIGIT EIGHTfFIVEdOUReNINEeONEdSEVENeIXdTHREEeWOdZERO",
  "MONGOLIAN DOUBLE BIRGA WITH ORNAMENT",
  "MONGOLIAN ELLIPSISiFOUR DOTSiREE VARIATION SELECTOR FOUReONEdTHREEeWO",
  "MONGOLIAN FULL STOPjINVERTED BIRGAa WITH DOUBLE ORNAMENT",
  "MONGOLIAN LETTER AaLI GALI AaHbNUSVARA ONEmBALUDAgCAcDAaGALGAfMARUfDAdHALF UbYAhI",
  "MONGOLIAN LETTER ALI GALI INVERTED UBADAMAqKAcNGAcNAdPAbHAdSSAdTAbHREE BALUDAlTAbHAeUBADAMA",
  "MONGOLIAN LETTER ALI GALI VISARGA ONElZAbHAlNGdBAcCHAa WITH TWO DOTSpIdDAcEaEcFAcGAcHAAdIbJA",
  "MONGOLIAN LETTER KAbHAdLAbHAdMAaNCHU ALI GALI BHAdCAbYAdDDHAdHAdGHAdJHAdLHAdNGAdSSAdTAbTAdZA",
  "MONGOLIAN LETTER MANCHU ALI GALI ZHAmFAcIbKAcRAcZHAkNAcOaEcPAcQAcRAcSAbHAcIBE ANGdCHAdDAcEbFA",
  "MONGOLIAN LETTER SIBE GAaAdHAaAdIaYcJAcKAcPAcRAAdSHAdTAbSAdUaEcZAbHAiTAbODO ALI GALI TAcZHAlNG",
  "MONGOLIAN LETTER TODO BAcCHAdDAbZAdEbGAaAdHAAdIbJAbIAdKAcLONG VOWEL SIGNpMAcNIAdOaEcPAcQAcTA",
  "MONGOLIAN LETTER TODO TSAdUaEcWAcYAgSAdUaEcWAcYAcZAbHIcRAkMANCHU COMMAfFULL STOPqNIRUGU",
  "MONGOLIAN ROTATED BIRGAa WITH DOUBLE ORNAMENTpORNAMENT",
  "MONGOLIAN SIBE SYLLABLE BOUNDARY MARKER",
  "MONGOLIAN SWIRL BIRGAa WITH DOUBLE ORNAMENTpORNAMENTzTODO SOFT HYPHEN",
  "MONGOLIAN TRIPLE BIRGA WITH ORNAMENTzURNED SWIRL BIRGA WITH DOUBLE ORNAMENT",
  "MONGOLIAN VOWEL SEPARATORwKEYa FACEiOGRAM FOR EARTHfYANGdINmRAILeSTABLE SYMBOLpOD BUBBLE",
  "MOON CAKEeVIEWING CEREMONYtSQUEbITOgTHER CHRISTMASnOR BOATeSCOOTERiIZED WHEELCHAIRpWAY",
  "MOUNT FUJIfAINa BICYCLISTjCABLEWAYiRAILWAYnSEa FACEeTRAPhTHdVIE CAMERAkYAIeRO DANDAeIGIT EIGHT",
  "MRO DIGIT FIVEdOUReNINEeONEdSEVENeIXdTHREEeWOdZEROjOUBLE DANDAmLETTER AbBAcCHUdDAaIdEaAcHAIbO",
  "MRO LETTER KEAAEeHAIdOcLAaNdMAEMdIMdNGIcINdOaLbOcPAbHIdRIbOcSHIdTAbEKcHEAeWAcYO",
  "MUCH GREATER-THANmLESS-THANmLTANI LETTER AbBAbHAdCAbHAdDAbDAbDAcHAdHAdEbGAbHAdHAcIbJAbJAdKAbHA",
  "MULTANI LETTER LAcMAcNAbNAcYAdPAbHAdRAbHAcRAdSAcTAbHAcTAbHAeUbVAcYAjSECTION MARKqIMAP",
  "MULTIPLE MUSICAL NOTESpICATION SIGNa IN DOUBLE CIRCLEnLEFT HALF CIRCLEqRIGHT HALF CIRCLE",
  "MULTIPLICATION SIGN IN TRIANGLElWITH DOT ABOVEjUNDERBARsXlSETa MULTIPLICATIONoUNIONmSHROOM",
  "MUSIC FLAT SIGNjNATURAL SIGNmSHARP SIGNlAL KEYBOARDa WITH JACKStNOTEeSCORE",
  "MUSICAL SYMBOL ARPEGGIATO DOWNeUPnBEGIN BEAMePHRASEgSLUReTIEiRACEbKETfEATH MARKiVEbISa REST",
  "MUSICAL SYMBOL C CLEFfAESURAgIRCLE X NOTEHEADqLIMACUSfVISeUSTER NOTEHEAD BLACKfWHITEvODA",
  "MUSICAL SYMBOL COMBINING ACCENTa-STACCATOoUGMENTATION DOTqBENDeDOITcUBLE TONGUElWN BOWiFLAG-1",
  "MUSICAL SYMBOL COMBINING FLAG-2b3b4b5eIPeHARMONICiLOUREfMARCATOa-STACCATOqRIPdSMEAR",
  "MUSICAL SYMBOL COMBINING SNAP PIZZICATOnPRECHGESANG STEMqTACCATISSIMOgOgEMeTENUTOfREMOLO-1b2b3",
  "MUSICAL SYMBOL COMBINING TRIPLE TONGUEnUP BOWnMON TIMEkRESCENDOhOIXeUT TIMEiDA CAPOfL SEGNOhMP",
  "MUSICAL SYMBOL DAMP ALLgSHED BARLINEnECRESCENDOjGREE SLASHlOUBLE BARLINEhFLATeSHARPlRUM CLEF-1",
  "MUSICAL SYMBOL DRUM CLEF-2lEIGHTH NOTEeRESTkND BEAMeOF STIMMEjPHRASEgSLUReTIEhF CLEF",
  "MUSICAL SYMBOL F CLEF OTTAVA ALTAeBASSAsERMATAa BELOWmINAL BARLINEkGERED TREMOLO-1b2b3",
  "MUSICAL SYMBOL FIVE-LINE STAFFoLAT DOWNeUPgORTEdUR-LINE STAFFkSTRING FRETBOARDuUSA BLACKfWHITE",
  "MUSICAL SYMBOL G CLEFa OTTAVA ALTAeBASSAsLISSANDO DOWNeUPlRACE NOTE NO SLASHiSLASH",
  "MUSICAL SYMBOL GREGORIAN C CLEFgF CLEFqHALF NOTEePEDAL MARKkRESThUPTSTIMMElINVERTED TURN",
  "MUSICAL SYMBOL KIEVAN C CLEFgEIGHTH NOTE STEM DOWNeUPsND OF PIECEmFINAL NOTEjLAT SIGN",
  "MUSICAL SYMBOL KIEVAN HALF NOTEjQUARTER NOTE STEM DOWNeUPuRECITATIVE MARKpWHOLE NOTEqORON",
  "MUSICAL SYMBOL LEFT REPEAT SIGNpONGAa IMPERFECTA RESTpPERFECTA RESTtMAXIMAfEZZOeINIMAa BLACK",
  "MUSICAL SYMBOL MINIMA RESTkOON NOTEHEAD BLACKfWHITEsULTI RESTfPLE MEASURE RESTvNATURAL DOWNeUP",
  "MUSICAL SYMBOL NEBENSTIMMEkOTEHEAD BLACKnULL NOTEHEADnONE HUNDRED TWENTY-EIGHTH NOTEeREST",
  "MUSICAL SYMBOL ONE-LINE STAFFnRNAMENT STROKE-1a0b1c2b3b4b5b6b7b8b9qTTAVA ALTAeBASSA",
  "MUSICAL SYMBOL PARENTHESIS NOTEHEADtEDAL MARKeUP MARKlS SUBPUNCTISnIANOeLUS NOTEHEADmODATUS",
  "MUSICAL SYMBOL PORRECTUSa FLEXUSqQUARTER NOTEeRESTeTONE FLATeSHARPqINDICESIMA ALTAeBASSA",
  "MUSICAL SYMBOL REPEAT DOTSfED FIGURE-1b2b3pVERSE FINAL BARLINEuIGHT REPEAT SIGNpNFORZANDO",
  "MUSICAL SYMBOL SCANDICUSa FLEXUSpEGNOdMIBREVIS BLACKfRESTeWHITEmMINIMA BLACKfRESTeWHITE",
  "MUSICAL SYMBOL SHARP DOWNeUPgORT BARLINEmINGLE BARLINEmX-LINE STAFFkSTRING FRETBOARD",
  "MUSICAL SYMBOL SIXTEENTH NOTEeRESTkY-FOURTH NOTEeRESTqORIdQUARE BbNOTEHEAD BLACKfWHITEuUBITO",
  "MUSICAL SYMBOL TEMPUS IMPERFECTUM CUM PROLATIONE IMPERFECTAa DIMINUTION-1b2b3xPERFECTA",
  "MUSICAL SYMBOL TEMPUS PERFECTUM CUM PROLATIONE IMPERFECTAkPERFECTAa DIMINUTION-1",
  "MUSICAL SYMBOL THIRTY-SECOND NOTEeRESTqREE-LINE STAFFpORCULUSa RESUPINUSrR",
  "MUSICAL SYMBOL TRIANGLE NOTEHEAD DOWN BLACKfWHITEkLEFT BLACKfWHITEkRIGHT BLACKfWHITElUP BLACK",
  "MUSICAL SYMBOL TRIANGLE NOTEHEAD UP RIGHT BLACKfWHITElWHITEs-ROUND NOTEHEAD DOWN BLACKfWHITE",
  "MUSICAL SYMBOL TURNa SLASHfUPgWO-LINE STAFFoVIRGAeOID NOTEHEADnWHOLE NOTEeRESTjITH FINGERNAILS",
  "MUSICAL SYMBOL X NOTEHEADkZpVScWbYANMAR CONSONANT SIGN MEDIAL HAcRAcWAcYAiON MEDIAL LAcMAcNA",
  "MYANMAR CONSONANT SIGN SHAN MEDIAL WA",
  "MYANMAR DIGIT EIGHTfFIVEdOUReNINEeONEdSEVENeIXdTHREEeWOdZEROkLETTER AaITON RAhUcBAbHAdCAbHAdDA",
  "MYANMAR LETTER DDAbHAdHAdEaASTERN PWO KAREN GHWAeNNAdYWAvGAbHAcREAT SAiHAcIaIcJAbHAdKAbHA",
  "MYANMAR LETTER KHAMTI CAbHAdDDAbHAdHAdFAcGAcHAbHAdJAbHAdLLAdNAbYAdRAcSAcTTAbHAeXAcZAjLAbLAdMA",
  "MYANMAR LETTER MON BBAbEdEbJHAdNGAhNAbGAcNAbYAdYAdObPAbHAdRAbUMAI PALAUNG FAqSAbGAW KAREN SHA",
  "MYANMAR LETTER SHAaN AbBAbHAdCAbHAdDAcFAcGAbHAdHAcJHAdKAbHAdNAbNAcYAdPHAdTHAdZAfWE PALAUNG CHA",
  "MYANMAR LETTER SHWE PALAUNG SHApSAdTAaI LAING BAbHAdDAbDAbHAdHAdFAcGAbHAdJAbHAdLLAdNNAcYAmHA",
  "MYANMAR LETTER TTAbHAeUaUcVOCALIC LaLcRaRkWAbESTERN PWO KAREN PWAdTHAvYAiOGOGRAM KHAMTI HMcOAY",
  "MYANMAR LOGOGRAM KHAMTI QNsMODIFIER LETTER KHAMTI REDUPLICATIONuSHAN REDUPLICATION",
  "MYANMAR SHAN DIGIT EIGHTfFIVEdOUReNINEeONEdSEVENeIXdTHREEeWOdZEROoIGN ANUSVARAhSATeDOT BELOW",
  "MYANMAR SIGN KHAMTI TONE-1b3nLITTLE SECTIONoPAO KAREN TONEoRUMAI PALAUNG TONE-5uSECTION",
  "MYANMAR SIGN SHAN COUNCIL EMPHATIC TONEnTONE-2b3oSAWdTONE-2b3b5b6lTAI LAING TONE-2b5qVIRAMA",
  "MYANMAR SIGN VISARGAhWESTERN PWO KAREN TONE-1b2b3b4b5",
  "MYANMAR SYMBOL AFOREMENTIONEDnITON EXCLAMATIONlONEdTWOjCOMPLETEDjGENITIVEiLOCATIVE",
  "MYANMAR SYMBOL SHAN EXCLAMATIONlONEpTAI LAING DIGIT EIGHTfFIVEdOUReNINEeONEdSEVENeIXdTHREEeWO",
  "MYANMAR TAI LAING DIGIT ZEROtONE MARK SGAW KAREN HATHIfKE PHO",
  "MYANMAR VOWEL SIGN AAbIaTON AaIiEa ABOVEhGEBA KAREN ImIaIcKAYAH EEcOEcUhMON IIcOfSGAW KAREN EU",
  "MYANMAR VOWEL SIGN SHAN AAcEa ABOVEhFINAL YmTALL AAhUaUcVOCALIC LaLcRaRkWESTERN PWO KAREN EU",
  "MYANMAR VOWEL SIGN WESTERN PWO KAREN UE",
  "N-ARY CIRCLED DOT OPERATORmPLUS OPERATORnTIMES OPERATORvOPRODUCTjINTERSECTIONmLOGICAL ANDdOR",
  "N-ARY PRODUCThSQUARE INTERSECTION OPERATORvUNION OPERATORuUMMATIONjTIMES OPERATORoUNION",
  "N-ARY UNION OPERATOR WITH DOTdPLUSyWHITE VERTICAL BARxABATAEAN CRUCIFORM NUMBER FOUR",
  "NABATAEAN LETTER ALEPHeYINeBETHeDALETHgFINAL ALEPHfBETHeHEcKAPHeLAMEDHgMEMdNUNdSHINeYODHkGIMEL",
  "NABATAEAN LETTER HEaTHeKAPHeLAMEDHgMEMdNUNdPEcQOPHeRESHeSADHEdMEKHfHINeTAWcETHeWAWdYODHeZAYIN",
  "NABATAEAN NUMBER FIVEdOUReONEa HUNDREDlTENcHREEeWENTYeOrLAdIL POLISHiRA SIGNiKbME BADGEiND",
  "NANDINAGARI HEADSTROKEkLETTER AaAbIbUcBAbHAdCAbHAdDAbDAbHAdHAdEbGAbHAdHAcIaIcJAbHAdKAbHAdLAbLA",
  "NANDINAGARI LETTER MAcNAbGAcNAcYAdObPAbHAdRAbRAdSAbHAcSAdTAbHAcTAbHAeUaUcVAbOCALIC RaRkYA",
  "NANDINAGARI SIGN ANUSVARAhVAGRAHAiSIDDHAMhVIRAMAeSARGAmVOWEL SIGN AAbIbUcEbIaIcO",
  "NANDINAGARI VOWEL SIGN PRISHTHAMATRA EpUaUcVOCALIC RaR",
  "NARROW NO-BREAK SPACEtTIONAL DIGIT SHAPESmPARKlUSEATED FACEmZAR AMULETlBHbSPdECKTIE",
  "NEGATED DOUBLE VERTICAL BAR DOUBLE RIGHT TURNSTILE",
  "NEGATIVE ACKNOWLEDGElCIRCLED DIGIT ZEROkLATIN CAPITAL LETTER AbBbCbDbEbFbGbHbIbJbKbLbMbNbObPbQ",
  "NEGATIVE CIRCLED LATIN CAPITAL LETTER RbSbTbUbVbWbXbYbZwNUMBER EIGHTEENhLEVENgFIFTEENgOURTEEN",
  "NEGATIVE CIRCLED NUMBER NINETEENiSEVENTEENiIXTEENhTHIRTEENhWELVEdNTYnSQUAREgTRIANGLE",
  "NEGATIVE DIAGONAL CROSSfDIAMONDhMIDDLE RIGHT TO LOWER CENTRE",
  "NEGATIVE SQUARED ABcCROSS MARKkICcLATIN CAPITAL LETTER AbBbCbDbEbFbGbHbIbJbKbLbMbNbObPbQbRbSbT",
  "NEGATIVE SQUARED LATIN CAPITAL LETTER UbVbWbXbYbZwPAcQUESTION MARKnSAcWC",
  "NEITHER A SUBSET OF NOR EQUAL TOuPERSET OF NOR EQUAL TOzPPROXIMATELY NOR ACTUALLY EQUAL TO",
  "NEITHER GREATER-THAN NOR EQUAL TOfIVALENT TOnLESS-THAN",
  "NEITHER LESS-THAN NOR EQUAL TOfIVALENT TOnGREATER-THAN",
  "NELbPTUNEa FORM TWOoRD FACEhSSUSdT WITH EGGSkING DOLLSlUTERcRAL CHESS BISHOP",
  "NEUTRAL CHESS BISHOP ROTATED NINETY DEGREESoTWO HUNDRED SEVENTY DEGREES",
  "NEUTRAL CHESS EQUIHOPPERa ROTATED NINETY DEGREES",
  "NEUTRAL CHESS KINGa ROTATED NINETY DEGREESoTWO HUNDRED SEVENTY DEGREES",
  "NEUTRAL CHESS KNIGHTa ROTATED FORTY-FIVE DEGREESsNINETY DEGREES",
  "NEUTRAL CHESS KNIGHT ROTATED ONE HUNDRED THIRTY-FIVE DEGREES",
  "NEUTRAL CHESS KNIGHT ROTATED THREE HUNDRED FIFTEEN DEGREES",
  "NEUTRAL CHESS KNIGHT ROTATED TWO HUNDRED SEVENTY DEGREESpTWENTY-FIVE DEGREES",
  "NEUTRAL CHESS PAWNa ROTATED NINETY DEGREESoTWO HUNDRED SEVENTY DEGREES",
  "NEUTRAL CHESS QUEENa ROTATED NINETY DEGREESoTWO HUNDRED SEVENTY DEGREES",
  "NEUTRAL CHESS ROOKa ROTATED NINETY DEGREESoTWO HUNDRED SEVENTY DEGREES",
  "NEUTRAL CHESS TURNED BISHOPgKINGdNIGHTgPAWNeQUEENfROOKrFACEkW LINEeMOON SYMBOLgWITH FACE",
  "NEW SHEQEL SIGNlTAI LUE DIGIT EIGHTfFIVEdOUReNINEeONEdSEVENeIXdTHREEeWOdZEROkLETTER FINAL BbD",
  "NEW TAI LUE LETTER FINAL KbMbNaGcVhHIGH BAcDAcFAcHAcKAbVAdLAcMAcNAbGAdPAbHAdQAcSAbUAdTAbHAcSA",
  "NEW TAI LUE LETTER HIGH VAcXAbVAdYAhLOW BAcDAcFAcHAcKAbVAdLAcMAcNAbGAdPAbHAdQAcSAbUAdTAbHAcSA",
  "NEW TAI LUE LETTER LOW VAcXAbVAdYAnSIGN LAEaVjTHAM DIGIT ONEnONE MARK-1b2lVOWEL SIGN AAaYcEbY",
  "NEW TAI LUE VOWEL SIGN EbIIbYcOaAaYcYcUaEaYcUbYcVOWEL SHORTENER",
  "NEWA ABBREVIATION SIGNrCOMMAfDANDAeIGIT EIGHTfFIVEdOUReNINEeONEdSEVENeIXdTHREEeWOdZERO",
  "NEWA DOUBLE COMMAfDANDAmGAP FILLERkINSERTION SIGNoLETTER AaAbIbUcBAbHAdCAbHAdDAbDAbHAdHAdEbGA",
  "NEWA LETTER GHAdHAcIaIcJAbHAdKAbHAdLAbHAdMAbHAdNAbGAbHAdHAcNAcYAbHAeObPAbHAdRAbHAdSAbHAcSAdTA",
  "NEWA LETTER THAcTAbHAeUaUcVEDIC ANUSVARAnOCALIC LaLcRaRkWAcYAjOMcPLACEHOLDER MARKqSANDHI MARK",
  "NEWA SIDDHIeGN ANUSVARAhVAGRAHAiCANDRABINDUlFINAL ANUSVARAoJIHVAMULIYAlNUKTAfUPADHMANIYA",
  "NEWA SIGN VIRAMAeSARGAmVOWEL SIGN AAbIbUcEbIaIcObUaUcVOCALIC LaLcRaRxLINE LEFTeRIGHTkSPAPER",
  "NEXT LINEePAGEiIGHT WITH STARSoNJAeKO COMBINING DOUBLE DOT ABOVEqLONG DESCENDING TONE",
  "NKO COMBINING LONG HIGH TONEjLOW TONEiRISING TONEqNASALIZATION MARKrSHORT HIGH TONEjLOW TONE",
  "NKO COMBINING SHORT RISING TONEyMAfDANTAYALANjIGIT EIGHTfFIVEdOUReNINEeONEdSEVENeIXdTHREEeWO",
  "NKO DIGIT ZEROjOROME SIGNlEXCLAMATION MARKqHIGH TONE APOSTROPHEuLAJANYALANjETTER AbBAcCHAdDA",
  "NKO LETTER DAGBASINNAkEaEcFAcGBAdHAcIbJAbONA CHAdJAcRAhKAcLAcMAcNaAa WOLOSOiYAa WOLOSOkOaOcPA",
  "NKO LETTER RAbRAdSAcTAcUbWAcYAiOW TONE APOSTROPHEtSYMBOL GBAKURUNENkOO DENNENqTAMAN SIGNnL",
  "NNBSPeO BICYCLEShREAK HEREkENTRYa SIGNkMOBILE PHONESnONE UNDER EIGHTEEN SYMBOLzPEDESTRIANS",
  "NO PIRACYgSMOKING SYMBOLp-BREAK SPACEmMINAL DIGIT SHAPESqSMA SIGNkN-BREAKING HYPHEN",
  "NON-POTABLE WATER SYMBOLvFORKINGiRaDIC MARK SIGNnMAL SUBGROUP OFa OR EQUAL TO",
  "NORTH EAST AND SOUTH WEST ARROWtRROWa AND SOUTH EAST ARROWuCROSSING NORTH WEST ARROW",
  "NORTH EAST ARROW CROSSING SOUTH EAST ARROWzWITH HOOKpBLACK ARROWlDOUBLE ARROWmPOINTING BUD",
  "NORTH EAST POINTING LEAFeVINE LEAFsSANS-SERIF ARROWqTRIANGLE-HEADED ARROWa TO BAR",
  "NORTH EAST WHITE ARROWqINDIC FRACTION ONE EIGHTHgHALFeQUARTERhSIXTEENTHnTHREE QUARTERS",
  "NORTH INDIC FRACTION THREE SIXTEENTHSzPLACEHOLDER MARKqQUANTITY MARKkRTER MARKmRUPEE MARK",
  "NORTH WEST AND SOUTH EAST ARROWtRROWa AND NORTH EAST ARROWuCROSSING NORTH EAST ARROWzTO CORNER",
  "NORTH WEST ARROW TO LONG BARlWITH HOOKpBLACK ARROWlDOUBLE ARROWmPOINTING BUDdLEAFeVINE LEAF",
  "NORTH WEST SANS-SERIF ARROWqTRIANGLE-HEADED ARROWa TO BAR",
  "NORTH WEST WHITE ARROWrEAST-POINTING AIRPLANEzSEcT A SUBSET OFhPERSET OFmLMOST EQUAL TO",
  "NOT AN ELEMENT OFmSYMPTOTICALLY EQUAL TOxCHECK MARKkEQUAL TOfIVALENT TOnGREATER-THAN",
  "NOT IDENTICAL TOmLESS-THANjNORMAL SUBGROUP OFa OR EQUAL TO",
  "NOT PARALLEL TOlSIGNdQUARE IMAGE OF OR EQUAL TOuORIGINAL OF OR EQUAL TO",
  "NOT TILDEeRUEfCHED LEFT SEMICIRCLE WITH THREE DOTS",
  "NOTCHED LOWER RIGHT-SHADOWED WHITE RIGHTWARDS ARROW",
  "NOTCHED RIGHT SEMICIRCLE WITH THREE DOTS",
  "NOTCHED UPPER RIGHT-SHADOWED WHITE RIGHTWARDS ARROW",
  "NOTEa PADbGEfBOOKa WITH DECORATIVE COVER",
  "NULaLcMBER EIGHTEEN FULL STOPrLEVEN FULL STOPqFIFTEEN FULL STOPqOURTEEN FULL STOP",
  "NUMBER NINETEEN FULL STOPsSEVENTEEN FULL STOPsIGNcXTEEN FULL STOPrTEN FULL STOP",
  "NUMBER THIRTEEN FULL STOPrWELVE FULL STOPnNTY FULL STOPuERO SIGNjSHU CHARACTER-1B170b1b2b3b4b5",
  "NUSHU CHARACTER-1B176b7b8b9bAbBbCbDbEbFc80b1b2b3b4b5b6b7b8b9bAbBbCbDbEbFc90b1b2b3b4b5b6b7b8b9",
  "NUSHU CHARACTER-1B19AbBbCbDbEbFcA0b1b2b3b4b5b6b7b8b9bAbBbCbDbEbFcB0b1b2b3b4b5b6b7b8b9bAbBbCbD",
  "NUSHU CHARACTER-1B1BEbFcC0b1b2b3b4b5b6b7b8b9bAbBbCbDbEbFcD0b1b2b3b4b5b6b7b8b9bAbBbCbDbEbFcE0b1",
  "NUSHU CHARACTER-1B1E2b3b4b5b6b7b8b9bAbBbCbDbEbFcF0b1b2b3b4b5b6b7b8b9bAbBbCbDbEbFd200b1b2b3b4b5",
  "NUSHU CHARACTER-1B206b7b8b9bAbBbCbDbEbFc10b1b2b3b4b5b6b7b8b9bAbBbCbDbEbFc20b1b2b3b4b5b6b7b8b9",
  "NUSHU CHARACTER-1B22AbBbCbDbEbFc30b1b2b3b4b5b6b7b8b9bAbBbCbDbEbFc40b1b2b3b4b5b6b7b8b9bAbBbCbD",
  "NUSHU CHARACTER-1B24EbFc50b1b2b3b4b5b6b7b8b9bAbBbCbDbEbFc60b1b2b3b4b5b6b7b8b9bAbBbCbDbEbFc70b1",
  "NUSHU CHARACTER-1B272b3b4b5b6b7b8b9bAbBbCbDbEbFc80b1b2b3b4b5b6b7b8b9bAbBbCbDbEbFc90b1b2b3b4b5",
  "NUSHU CHARACTER-1B296b7b8b9bAbBbCbDbEbFcA0b1b2b3b4b5b6b7b8b9bAbBbCbDbEbFcB0b1b2b3b4b5b6b7b8b9",
  "NUSHU CHARACTER-1B2BAbBbCbDbEbFcC0b1b2b3b4b5b6b7b8b9bAbBbCbDbEbFcD0b1b2b3b4b5b6b7b8b9bAbBbCbD",
  "NUSHU CHARACTER-1B2DEbFcE0b1b2b3b4b5b6b7b8b9bAbBbCbDbEbFcF0b1b2b3b4b5b6b7b8b9bAbB",
  "NUSHU ITERATION MARKsT AND BOLTlYIAKENG PUACHUE HMONG CIRCLED CAkDIGIT EIGHTfFIVEdOUReNINEeONE",
  "NYIAKENG PUACHUE HMONG DIGIT SEVENeIXdTHREEeWOdZEROkLETTER AaAcCAcDAbLAdEaEcFAcGAcHAaHdIbKAcLA",
  "NYIAKENG PUACHUE HMONG LETTER MAbLAdNAbCAcKAcPAbLAdQAcRAcTAbSAcXAdYAdOaOcPAbLAdQAcRAbRAdSAcTA",
  "NYIAKENG PUACHUE HMONG LETTER TSAcXAdUbVAcWbXAbYAdYAcZAiOGOGRAM NYAJnSIGN FOR ANIMAL",
  "NYIAKENG PUACHUE HMONG SIGN FOR INVERTEBRATEmLOCATIONiPERSONgTHINGjXW XWjYLLABLE LENGTHENER",
  "NYIAKENG PUACHUE HMONG TONE-BbDbGbJbMbSbV",
  "OBJECT REPLACEMENT CHARACTER",
  "OBLIQUE ANGLE OPENING DOWNeUPqHYPHENmSERVER EYE SYMBOLsCR AMOUNT OF CHECKpBELT BUCKLEkOW TIE",
  "OCR BRANCH BANK IDENTIFICATION",
  "OCR CHAIReUSTOMER ACCOUNT NUMBERxDASHdOUBLE BACKSLASHqFORKeHOOKeINVERTED FORKpTAGONAL SIGN",
  "OCTOPUSgDENdFFICE BUILDINGoGHAM FEATHER MARKmLETTER AILMeBEITHfCEIRTeOLLeDAIReEABHADHfDHADH",
  "OGHAM LETTER EAMHANCHOLLlFEARNfGORTeIFINdODHADHhLUISeMUINeNGEADALgIONeONNcRcPEITHfRUISeSAIL",
  "OGHAM LETTER STRAIFgTINNEfUATHdILLEANNhRjREVERSED FEATHER MARKvSPACE MARKoONEKfHM SIGNhIL DRUM",
  "OK HAND SIGNlL CHIKI AHADeDIGIT EIGHTfFIVEdOUReNINEeONEdSEVENeIXdTHREEeWOdZERO",
  "OL CHIKI GAAHLAA TTUDDAAGqLETTER AAJbKbMbWcGbLbNGcTcEDDcNbPbRRdIHbNYcRbScLAaAcEbIbObUcOBbHbTT",
  "OL CHIKI LETTER OVcUCbDbNNcYjMU TTUDDAGi-GAAHLAA TTUDDAAGtPHAARKAAhUNCTUATION DOUBLE MUCAAD",
  "OL CHIKI PUNCTUATION MUCAADsRELAAmD CHINESE HOOK MARKjITERATION MARK",
  "OLD HUNGARIAN CAPITAL LETTER AaAbKbMBcNDdCLOSE EhEaBbCaHbScDbEbFbGaYcHbJbKbLaYcMaPcNaCbT",
  "OLD HUNGARIAN CAPITAL LETTER ENT-SHAPED SIGNnYcPbRbSaZcTaYcVbZaSdIaIcNIKOLSBURG OEcUEnOaEEcO",
  "OLD HUNGARIAN CAPITAL LETTER RUDIMENTA OEcUEmSHORT ERiUaNKcSbUrNUMBER FIFTYdVEeONEa HUNDRED",
  "OLD HUNGARIAN NUMBER ONE THOUSANDmTENkSMALL LETTER AaAbKbMBcNDdCLOSE EhEaBbCaHbScDbEbFbGaYcHbJ",
  "OLD HUNGARIAN SMALL LETTER EKbLaYcMaPcNaCbTa-SHAPED SIGNnYcPbRbSaZcTaYcVbZaSdIaIcNIKOLSBURG OE",
  "OLD HUNGARIAN SMALL LETTER NIKOLSBURG UEnOaEEcOcRUDIMENTA OEcUEmSHORT ERiUaNKcSbU",
  "OLD ITALIC LETTER AbBEcCHEdDEcEaFbKScLbMbNbRaScSaHbSdHEcIaIcKAbEbHEcUcNORTHERN TSEmObPEbHEdSHE",
  "OLD ITALIC LETTER SOUTHERN TSEmTEbHEdUaUcVEcYEcZEjNUMERAL FIFTYdVEeONEdTENsKEY",
  "OLD NORTH ARABIAN LETTER AINcLEFeBEHdDADbLdES-1b2b3eFEHdGEEMdHAINfHAHcEHdKAFcHAHeLAMdMEEMeNOON",
  "OLD NORTH ARABIAN LETTER QAFdREHdSADdTAHcEHcHALcEHeWAWdYEHdZAHbINlNUMBER ONEdTENcWENTY",
  "OLD PERMIC LETTER ANcBURdCHERYfDOIcZHOIdITAfEaFcGAIdHAcIaAbEcKOKEeLEIdMENOEfNENOEfOaOcPEEIeREI",
  "OLD PERMIC LETTER SHCHOOIfOOIeIIdTAIcSIUeUbVERcOOIeYAaTcERaIbUdRYcUcZATAdHOI",
  "OLD PERSIAN NUMBER HUNDREDhONEdTENcWENTYeOkSIGN AaURAMAZDAAa-2cHAmBAaGAdUUMISHhCAcDAaHYAAUSH",
  "OLD PERSIAN SIGN DAHYAAUSH-2kIbUcFAcGAbUcHAcIbJAbIcKAbUcLAcMAbIbUcNAbUcPAcRAbUcSAbHAcSAdTAbHA",
  "OLD PERSIAN SIGN TUcUbVAbIcXAbSHAAYATHIYAmYAcZAhWORD DIVIDERqONAL COMPUTER",
  "OLD SOGDIAN FRACTION ONE HALFrLETTER ALEPHdTERNATE AYINnYINeBETHeFINAL ALEPHfBETHeHEcNUN",
  "OLD SOGDIAN LETTER FINAL NUN WITH VERTICAL TAILwSADHEa WITH VERTICAL TAILyTAW",
  "OLD SOGDIAN LETTER FINAL TAW WITH VERTICAL TAIL",
  "OLD SOGDIAN LETTER GIMELfHEaTHeKAPHeLAMEDHgMEMdNUNdPEcRESH-AYIN-DALETHqSADHEdMEKHfHINeTAWdWAW",
  "OLD SOGDIAN LETTER YODHeZAYINlIGATURE AYIN-DALETHuNUMBER FIVEdOUReONEa HUNDREDlTENcHIRTYeREE",
  "OLD SOGDIAN NUMBER TWENTYeOqUTH ARABIAN LETTER ALEFdYNdBETHeDALETHfHADHEdLETHhFEcGHAYNeIMELfHE",
  "OLD SOUTH ARABIAN LETTER HETHeKAPHdHETHfLAMEDHgMEMdNUNdQOPHeRESHeSADHEdMEKHeTcHINeTAWcETHdHAW",
  "OLD SOUTH ARABIAN LETTER THETHfWAWdYODHeZAYNlNUMBER FIFTYfONEhERIC INDICATOR",
  "OLD TURKIC LETTER ORKHON AaBbDbEBbDbGbKbLbNbRbSbTbYcGbLbNbQbRbSaHcTbYcBASHeECbLTcMbNCbGbTbYcP",
  "OLD TURKIC LETTER ORKHON ESHcZcIaCbQcOaEaKcPbQbTjYENISEI AaBbDbEaBbGbKbNaGcTbYcGbLbNGcQbRbSHcT",
  "OLD TURKIC LETTER YENISEI AYcEaCbNCbTbYcSHcZcIaQcOEaKcQyUYGHUR COMBINING DOT ABOVEfBELOW",
  "OLD UYGHUR COMBINING TWO DOTS ABOVEfBELOWyLETTER ALEPHfBETHeFINAL HETHkGIMEL-HETHkKAPHeLAMEDH",
  "OLD UYGHUR LETTER LESHeMEMdNUNdPEcRESHeSADHEdMEKHfHINeTAWdWAWdYODHeZAYINmPUNCTUATION BAR",
  "OLD UYGHUR PUNCTUATION FOUR DOTSjTWO BARSeDOTS",
  "OLDER ADULTfMANdWOMANjIVEeM SYMBOLiN WITH EXCLAMATION MARK WITH LEFT RIGHT ARROW ABOVE",
  "ONCOMING AUTOMOBILEkBUSdFIRE ENGINElPOLICE CARkTAXIlE BUTTON MOUSEmDOT LEADER",
  "ONE DOT OVER TWO DOTS PUNCTUATION",
  "ONE-PIECE SWIMSUITqIONePEN BOOKcXdCENTRE ASTERISKiBLACK STARkCROSSfTEARDROP-SPOKED ASTERISK",
  "OPEN FILE FOLDERkOLDERgHANDS SIGNkLOCKeMAILBOX WITH LOWERED FLAGmRAISED FLAGySUBSETePERSET",
  "OPEN-CIRCUIT-OUTPUT H-TYPE SYMBOLnL-TYPE SYMBOL",
  "OPEN-OUTLINED RIGHTWARDS ARROW",
  "OPERATING SYSTEM COMMANDwHIUCHUShPOSITIONiTICAL DISCa ICONnON KEYjR WITH DOT INSIDEqANGE BOOK",
  "ORANGE HEARThUTANhIGINAL OFiYA AI LENGTH MARKnU LENGTH MARKoDIGIT EIGHTfFIVEdOUReNINEeONE",
  "ORIYA DIGIT SEVENeIXdTHREEeWOdZEROkFRACTION ONE EIGHTHgHALFeQUARTERhSIXTEENTHnTHREE QUARTERS",
  "ORIYA FRACTION THREE SIXTEENTHSzISSHARgLETTER AaAbIbUcBAbHAdCAbHAdDAbDAbHAdHAdEbGAbHAdHAcIaI",
  "ORIYA LETTER JAbHAdKAbHAdLAbLAdMAcNAbGAcNAcYAdObPAbHAdRAbHAcRAdSAbHAcSAdTAbHAcTAbHAeUaUcVA",
  "ORIYA LETTER VOCALIC LaLcRaRkWAcYAbYAkSIGN ANUSVARAhVAGRAHAiCANDRABINDUlNUKTAfOVERLINEiVIRAMA",
  "ORIYA SIGN VISARGAmVOWEL SIGN AAbIbUcEbIaIcObUaUcVOCALIC LaLcRaRzNATE LEFT PARENTHESIS",
  "ORNATE RIGHT PARENTHESISwTHODOX CROSSnSAGE CAPITAL LETTER AaHbIaNdBRAdCHAdDHAdEaHCHAdKAcPAcTA",
  "OSAGE CAPITAL LETTER EHTSAeINdGHAdHAbYAdIbKAbHAcYAdLAcMAcNAcOaINdPAcSAbHAdTAbSAbHAeUbWAcZAbHA",
  "OSAGE SMALL LETTER AaHbIaNdBRAdCHAdDHAdEaHCHAdKAcPAcTAbSAeINdGHAdHAbYAdIbKAbHAcYAdLAcMAcNAcO",
  "OSAGE SMALL LETTER OINdPAcSAbHAdTAbSAbHAeUbWAcZAbHAuCbMANYA DIGIT EIGHTfFIVEdOUReNINEeONE",
  "OSMANYA DIGIT SEVENeIXdTHREEeWOdZEROkLETTER AaAbLEFeBAcCAYNeDEELdHAdEaEcFAcGAcHAcIbJAcKAAFdHA",
  "OSMANYA LETTER LAANeMIINeNUUNeOaOcQAAFeRAcSAbHIINfTAcUbWAWdXAcYAqTTER",
  "OTTOMAN SIYAQ ALTERNATE NUMBER EIGHTfFIVEdOURa HUNDREDmNINEeSEVENeIXa HUNDREDlTENa THOUSAND",
  "OTTOMAN SIYAQ ALTERNATE NUMBER THREEeWOa THOUSAND",
  "OTTOMAN SIYAQ FRACTION ONE HALFeSIXTHsMARRATANiNUMBER EIGHTa HUNDREDhTHOUSANDjYa THOUSAND",
  "OTTOMAN SIYAQ NUMBER FIFTYa THOUSANDmVEa HUNDREDhTHOUSANDmORTYa THOUSANDmURa HUNDREDhTHOUSAND",
  "OTTOMAN SIYAQ NUMBER NINEa HUNDREDhTHOUSANDjTYa THOUSANDpONEa HUNDREDhTHOUSANDmSEVENa HUNDRED",
  "OTTOMAN SIYAQ NUMBER SEVEN THOUSANDjTYa THOUSANDpIXa HUNDREDhTHOUSANDjTYa THOUSANDoTEN",
  "OTTOMAN SIYAQ NUMBER TEN THOUSANDlHIRTYa THOUSANDnREEa HUNDREDhTHOUSANDnWENTYa THOUSANDnO",
  "OTTOMAN SIYAQ NUMBER TWO HUNDREDhTHOUSAND",
  "OUNCE SIGNiTBOX TRAYiLINED BLACK STARkGREEK CROSSlLATIN CROSSlWHITE STARsVERHEATED FACElLAP",
  "OVERLAPPING BLACK SQUARESnWHITE AND BLACK SQUARESrSQUARESuINEhWLcXbYSTERgPACKAGEfD",
  "PADDING CHARACTERpGEa FACING UPjWITH CIRCLED TEXTlURLkRbScODAeHAWH HMONG CLAN SIGN FAJdHAMbWJ",
  "PAHAWH HMONG CLAN SIGN KHABdOOcWMdLAUJdISdMUASePHABeTHOJdSABcHEEJeWBeVAJcWJdXYOOJfYAJcEEG",
  "PAHAWH HMONG CONSONANT AUcCAUcHAUeHAUcLAUdNAUeLAUdMAUdNAUcCHAUeKAUdLAUdTHAUdSAUfPLHAUfQHAUeRAU",
  "PAHAWH HMONG CONSONANT VAUdXAUdYAUnDIGIT EIGHTfFIVEdOUReNINEeONEdSEVENeIXdTHREEeWOdZERO",
  "PAHAWH HMONG MARK CIM HOMdKEScHAVeSObUAMeTAUMdUBmNUMBER HUNDRED MILLIONSjSiMILLIONS",
  "PAHAWH HMONG NUMBER TEN BILLIONSiTHOUSANDSkSdRILLIONSqSIGN AVcCIM CHEEMeUAM TSHOOJ",
  "PAHAWH HMONG SIGN CIM HAIS LUS NTOG NTOGsNRES TOSiPUB DAWBiTSOV ROGhXWVa CHWVnHLIcNUBeIB YAM",
  "PAHAWH HMONG SIGN LOSdMEEJ SUABeTSEEBjUSdNQIGdTUJeTAUcHIRD-STAGE HLIoXHEEJ CEEVlVOS FEEMeLUB",
  "PAHAWH HMONG SIGN VOS NRUAeSEEVeTHIABdOMdSHAB CEEBoXAUSdIABdYEEM FAIBeNTXIVfRHOdTOVhOO",
  "PAHAWH HMONG SIGN ZWJ THAJnVOWEL KAABbVcBbIBbVcUBbVcVbWBbVdEBbEBbVcVcIABbVcBbVcOBbOBbVcVcUABbV",
  "PAHAWH HMONG VOWEL KUBbVcWBbVuLLASdM BRANCHgDOWN HANDjTREEeUP HANDiS UP TOGETHER",
  "PALMYRENE LEFT-POINTING FLEURONtTTER ALEPHeYINeBETHeDALETHgFINAL NUNjGIMELfHEaTHeKAPHeLAMEDH",
  "PALMYRENE LETTER MEMdNUNdPEcQOPHeRESHeSADHEdMEKHfHINeTAWcETHeWAWdYODHeZAYINmNUMBER FIVEdOUR",
  "PALMYRENE NUMBER ONEdTENcHREEeWENTYeOkRIGHT-POINTING FLEURON",
  "PANCAKESfDA FACEiPERCLIPhRACHUTEfGRAPH SEPARATORkOScUS MARKmLLEL TOcWITH HORIZONTAL STROKE",
  "PARALLEL WITH TILDE OPERATORzENTHESIZED DIGIT EIGHTfFIVEdOUReNINEeONEdSEVENeIXdTHREEeWO",
  "PARENTHESIZED HANGUL CHIEUCHa AiIEUCa AbUhHIEUHa AhIEUNGa AhKHIEUKHa AiIYEOKa AiMIEUMa AhNIEUN",
  "PARENTHESIZED HANGUL NIEUN AhPHIEUPHa AiIEUPa AhRIEULa AhSIOSa AgTHIEUTHa AiIKEUTa A",
  "PARENTHESIZED IDEOGRAPH ALLIANCEiCALLdONGRATULATIONoEARTHeIGHTeNTERPRISEkFESTIVALhINANCIALhRE",
  "PARENTHESIZED IDEOGRAPH FIVEdOUReHAVEeLABORfMETALeOONeNAMEdINEeONEdREACHdPRESENThSOURCEfTeSELF",
  "PARENTHESIZED IDEOGRAPH SEVENeIXcOCIETYgPECIALgTOCKdUDYeUNbPERVISEjTENcHREEeWOdWATEReOOD",
  "PARENTHESIZED KOREAN CHARACTER O HUdJEONwLATIN CAPITAL LETTER AbBbCbDbEbFbGbHbIbJbKbLbMbNbObP",
  "PARENTHESIZED LATIN CAPITAL LETTER QbRbSbTbUbVbWbXbYbZqSMALL LETTER AbBbCbDbEbFbGbHbIbJbKbLbM",
  "PARENTHESIZED LATIN SMALL LETTER NbObPbQbRbSbTbUbVbWbXbYbZuNUMBER EIGHTEENhLEVENgFIFTEEN",
  "PARENTHESIZED NUMBER FOURTEENiNINETEENiSEVENTEENiIXTEENhTENcHIRTEENhWELVEdNTYyROT",
  "PART ALTERNATION MARKrIAL DIFFERENTIALmLINE BACKWARDiDOWNeFORWARDhUPiLY-RECYCLED PAPER SYMBOL",
  "PARTNERSHIP SIGNmY POPPERkSSED SYMBOLiNGER SHIPkIVE-PULL-DOWN-OUTPUT SYMBOLsUP-OUTPUT SYMBOL",
  "PASSPORT CONTROLoU CIN HAU GLOTTAL STOPa FINALfVARIANTuLETTER AbBAcCAbHAdDAcEbFAbINAL KbLbMbN",
  "PAU CIN HAU LETTER FINAL NGcPbTbWbYhGAcHAcIaAcKAbHAdLAcMAcNAbGAdObPAbHAdRAcSAcTAbHAdUaAcVAcZA",
  "PAU CIN HAU LOW-FALLING TONEa FINALfLONGa FINAL",
  "PAU CIN HAU MID-LEVEL TONEa FINALfLONG FINALzRISING TONEa FINALfLONGa FINAL",
  "PAU CIN HAU SANDHI GLOTTAL STOPa FINALsTONEa FINALfLONGa FINAL",
  "PAW PRINTSjDFbIcEACE SYMBOLiHbOCKeNUTSeRcDESTRIANiN OVER STAMPED ENVELOPEwCILdGUINeSIVE FACE",
  "PENTAGRAMhOPLE HUGGINGmR MILLE SIGNkSIGNeTEN THOUSAND SIGNsCENT SIGNjFORMING ARTS",
  "PERMANENT PAPER SIGNrPENDICULARa WITH SrSEVERING FACEmON BOWING DEEPLYnCLIMBING",
  "PERSON DOING CARTWHEELpFROWNINGiIN LOTUS POSITIONoSTEAMY ROOM",
  "PERSON RAISING BOTH HANDS IN CELEBRATION",
  "PERSON WITH BALLdLOND HAIRkCROWNfFOLDED HANDSmHEADSCARFjPOUTING FACEsAL COMPUTERnPECTIVE",
  "PESETA SIGNiO SIGNhTRI DISHjHAGS-PA DOUBLE HEAD MARKqLETTER AaLTERNATE YAlSPIRATED FAmBAcCA",
  "PHAGS-PA LETTER CANDRABINDUkHAdDAbDAcZAdEaEcFAcGAbGAdHAcIbJAcKAbHAdLAcMAcNAbGAcNAcYAdObPAbHA",
  "PHAGS-PA LETTER QAcRAcSAbHAcMALL AhTAbHAcSAbHAdTAbHAeUbVOICED HAeLESS SHAnWAcXAcYAcZAbHA",
  "PHAGS-PA MARK DOUBLE SHADlSHADjSINGLE HEAD MARKpUBJOINED LETTER RAcWAcYArPERFIXED LETTER RA",
  "PHAISTOS DISC SIGN ARROWfBEEaHIVEgOOMERANGhWcULLS LEGjCAPTIVEfRPENTRY PLANEnTcHILDeLUBdOLUMN",
  "PHAISTOS DISC SIGN COMBaINING OBLIQUE STROKEyDOLIUMeVEeEAGLEfFLUTEfGAUNTLEThRATERgHELMETfIDE",
  "PHAISTOS DISC SIGN HORNeLIDbLYeMANACLESgTTOCKhOX BACKhPAPYRUSgEDESTRIANjLANE TREEiUMED HEAD",
  "PHAISTOS DISC SIGN RAMcOSETTEhSAWcHIELDdPdLINGeMALL AXEiTRAINERiTATTOOED HEADmIARAeUNNYfVINE",
  "PHAISTOS DISC SIGN WAVY BANDiOMANwILIPPINE DOUBLE PUNCTUATIONsSINGLE PUNCTUATION",
  "PHOENICIAN LETTER AINcLFdBETdDELTeGAMLeHEaTdKAFdLAMDeMEMdNUNdPEcQOFdROSHeSADEdEMKdHINeTAUcET",
  "PHOENICIAN LETTER WAUdYODdZAIkNUMBER ONEa HUNDREDlTENcHREEeWENTYeOkWORD SEPARATORwLUSfICK",
  "PICKUP TRUCKkEbGa FACEeNOSEgLCROW SIGNjE OF POOiLcNATAdCHED FINGERSkING HANDkE DECORATION",
  "PINEAPPLEgWHEEL STARlSCESdTOLeTCHFORKa WITH TEE TOPvLACARDdE OF INTEREST SIGNnWORSHIP",
  "PLANCK CONSTANTa OVER TWO PIyYGROUND SLIDEmING CARD ACE OF CLUBSfDIAMONDSiHEARTSgSPADESnBACK",
  "PLAYING CARD BLACK JOKERlEIGHT OF CLUBSfDIAMONDSiHEARTSgSPADESpFIVE OF CLUBSfDIAMONDSiHEARTS",
  "PLAYING CARD FIVE OF SPADESnOOLcUR OF CLUBSfDIAMONDSiHEARTSgSPADESoJACK OF CLUBSfDIAMONDS",
  "PLAYING CARD JACK OF HEARTSgSPADESoKING OF CLUBSfDIAMONDSiHEARTSgSPADESnNIGHT OF CLUBS",
  "PLAYING CARD KNIGHT OF DIAMONDSiHEARTSgSPADESqNINE OF CLUBSfDIAMONDSiHEARTSgSPADES",
  "PLAYING CARD QUEEN OF CLUBSfDIAMONDSiHEARTSgSPADESpRED JOKERjSEVEN OF CLUBSfDIAMONDSiHEARTS",
  "PLAYING CARD SEVEN OF SPADESoIX OF CLUBSfDIAMONDSiHEARTSgSPADESnTEN OF CLUBSfDIAMONDSiHEARTS",
  "PLAYING CARD TEN OF SPADESmHREE OF CLUBSfDIAMONDSiHEARTSgSPADESoRUMP-1a0b1b2b3b4b5b6b7b8b9c2a0",
  "PLAYING CARD TRUMP-21c3b4b5b6b7b8b9gWO OF CLUBSfDIAMONDSiHEARTSgSPADESnWHITE JOKERwDbUaNGER",
  "PLUS SIGNa ABOVE EQUALS SIGNrIN LEFT HALF CIRCLEqRIGHT HALF CIRCLErTRIANGLE",
  "PLUS SIGN WITH BLACK TRIANGLEoCIRCUMFLEX ACCENT ABOVExDOT BELOWjSMALL CIRCLE ABOVE",
  "PLUS SIGN WITH SUBSCRIPT TWOnTILDE ABOVEfBELOWw-MINUS SIGNmTOa FORM FIVEdOUReTHREEeWOnM",
  "POCKET CALCULATORpLICE CARaS REVOLVING LIGHTuOFFICERmODLEeP DIRECTIONAL FORMATTINGkISOLATE",
  "POPCORNfRTABLE STEREOnSEIDONfITION INDICATORpTAL HORNeMARKa FACEmBOXfT OF FOOD",
  "POTABLE WATER SYMBOLqTOdTED PLANTkUCHcLTRY LEGiND SIGNhRING LIQUIDlTING CAT FACEiFACE",
  "POWER ON SYMBOLh-OFF SYMBOLnSLEEP SYMBOLlYMBOLlRAYER BEADSkECEDESa ABOVE ALMOST EQUAL TO",
  "PRECEDES ABOVE EQUALS SIGNlNOT ALMOST EQUAL TOpEQUAL TOmSINGLE-LINE EQUALS SIGNlNOT EQUAL TO",
  "PRECEDES BUT NOT EQUIVALENT TOvOR EQUAL TOfIVALENT TOqUNDER RELATIONuGNANT MANdPERSONgWOMAN",
  "PRESCRIPTION TAKEnENTATION FORM FOR VERTICAL COLONdMMAfEM DASHgN DASHgXCLAMATION MARK",
  "PRESENTATION FORM FOR VERTICAL HORIZONTAL ELLIPSIStIDEOGRAPHIC COMMAfFULL STOP",
  "PRESENTATION FORM FOR VERTICAL LEFT ANGLE BRACKETnBLACK LENTICULAR BRACKETyCORNER BRACKET",
  "PRESENTATION FORM FOR VERTICAL LEFT CURLY BRACKETnDOUBLE ANGLE BRACKETuPARENTHESIS",
  "PRESENTATION FORM FOR VERTICAL LEFT SQUARE BRACKEToTORTOISE SHELL BRACKETwWHITE CORNER BRACKET",
  "PRESENTATION FORM FOR VERTICAL LEFT WHITE LENTICULAR BRACKET",
  "PRESENTATION FORM FOR VERTICAL LOW LINEiQUESTION MARKnRIGHT ANGLE BRACKET",
  "PRESENTATION FORM FOR VERTICAL RIGHT BLACK LENTICULAR BRACKETyCORNER BRACKETnURLY BRACKET",
  "PRESENTATION FORM FOR VERTICAL RIGHT DOUBLE ANGLE BRACKETuPARENTHESISlSQUARE BRACKET",
  "PRESENTATION FORM FOR VERTICAL RIGHT TORTOISE SHELL BRACKETwWHITE CORNER BRACKET",
  "PRESENTATION FORM FOR VERTICAL RIGHT WHITE LENTICULAR BRACKETeKCET",
  "PRESENTATION FORM FOR VERTICAL SEMICOLONjTWO DOT LEADERoWAVY LOW LINE",
  "PRETZELeVIOUS PAGElIMEcNCEaSSeT SCREEN SYMBOLoERa ICONjVACY MESSAGEkTE USE ONEdTWOe-1b2",
  "PROBING CANEjHIBITED SIGNmJECTIVEhPERTY LINEjORTIONaAL TOmSERPINA",
  "PSALTER PAHLAVI FOUR DOTS WITH CROSSfDOTsLETTER ALEPHfBETHeDALETHgGIMELfHEaTHeKAPHeLAMEDH",
  "PSALTER PAHLAVI LETTER MEM-QOPHiNUNdPEcSADHEdMEKHfHINeTAWdWAW-AYIN-RESHnYODHeZAYINmNUMBER FOUR",
  "PSALTER PAHLAVI NUMBER ONEa HUNDREDlTENcHREEeWENTYeOkSECTION MARKmTURNED SECTION MARK",
  "PU1b2bBLIC ADDRESS LOUDSPEAKERyNCTUATION SPACElS ELEVATUS MARKtRPLE HEARTjSEdSHPIN",
  "PUT LITTER IN ITS PLACE SYMBOL",
  "QUADRANT LOWER LEFTeRIGHTlUPPER LEFTa AND LOWER LEFT AND LOWER RIGHTuRIGHT",
  "QUADRANT UPPER LEFT AND UPPER RIGHT AND LOWER LEFTeRIGHT",
  "QUADRANT UPPER RIGHTa AND LOWER LEFTa AND LOWER RIGHT",
  "QUADRUPLE INTEGRAL OPERATORrPRIMEmRTER NOTEjTERNION INTEGRAL OPERATOR",
  "QUESTION EXCLAMATION MARKqMARKfED EQUAL TOrINCUNXgOTATION MARKoRABBITa FACEjCCOONeING CAR",
  "RACING MOTORCYCLEpDICAL SYMBOL BOTTOMrOa BUTTONhACTIVE SIGNoILWAY CARdTRACKkNaBOW",
  "RAISED BACK OF HANDmCOMMAfDOTaTED INTERPOLATION MARKER",
  "RAISED FISTeHANDa WITH FINGERS SPLAYEDpPART BETWEEN MIDDLE AND RING FINGERS",
  "RAISED INTERPOLATION MARKERuMC SIGNgD SIGNgR SIGNhSQUARElMbTaIOdZOReECEIPTeORD SEPARATOR",
  "RECREATIONAL VEHICLErYCLED PAPER SYMBOLpING SYMBOL FOR GENERIC MATERIALSrTYPE-1 PLASTICS",
  "RECYCLING SYMBOL FOR TYPE-2 PLASTICSk3 PLASTICSk4 PLASTICSk5 PLASTICSk6 PLASTICSk7 PLASTICS",
  "RED APPLEfGIFT ENVELOPEpFERENCE MARKmGIONAL INDICATOR SYMBOL LETTER AbBbCbDbEbFbGbHbIbJbKbLbM",
  "REGIONAL INDICATOR SYMBOL LETTER NbObPbQbRbSbTbUbVbWbXbYbZ",
  "REGISTERED SIGNnJANG CONSONANT SIGN HbNaGcRqLETTER AbBAcCAcDAcGAcHAcJAcKAcLAcMAbBAdNAbDAcGAbGA",
  "REJANG LETTER NYAbJAePAcRAcSAcTAcWAcYAjSECTION MARKmVIRAMAfOWEL SIGN AIbUcEaAbUcIbObU",
  "RELIEVED FACElMINDER RIBBONnPLACEMENT CHARACTERtSPONSEfTRICTED LEFT ENTRY-1b2sOOMgTURN LEFT",
  "RETURN RIGHTfSYMBOLlVERSE CHECKER BOARDnINDEXfLIGHT FOUR POINTED PINWHEEL STAR",
  "REVERSE LINE FEEDjSOLIDUSa OPERATORiPRECEDING SUBSETqWITH HORIZONTAL STROKE",
  "REVERSE TILDE OPERATOR ABOVE LEFTWARDS ARROWpRIGHTWARDS ARROW",
  "REVERSED ANGLEa WITH UNDERBARtCOMMAfDOUBLE PRIMEa QUOTATION MARKuSTROKE NOT SIGNwEMPTY SET",
  "REVERSED FORKED PARAGRAPHOSsHAND WITH MIDDLE FINGER EXTENDED",
  "REVERSED NOT SIGNiPILCROW SIGNlRIMEfQUESTION MARKnRAISED HAND WITH FINGERS SPLAYED",
  "REVERSED RIGHT ANGLEkOTATED FLORAL HEART BULLET",
  "REVERSED SANS-SERIF CAPITAL LtEMICOLONjTHUMBS DOWN SIGNjUP SIGNnILDEa EQUALSlRIPLE PRIME",
  "REVERSED VICTORY HANDsOLVING HEARTSpHINOCEROSjIaAL SIGNhBBONa ARROW DOWN LEFTeRIGHTkLEFT DOWN",
  "RIBBON ARROW LEFT UPhRIGHT DOWNeUPiUP LEFTeRIGHTtCE BALLeCRACKERkFLE",
  "RIGHT AND LOWER ONE EIGHTH BLOCKwUPPER ONE EIGHTH BLOCKyGER BUBBLEjLEa BRACKETa WITH DOT",
  "RIGHT ANGLE DOTTED SUBSTITUTION MARKER",
  "RIGHT ANGLE SUBSTITUTION MARKERtVARIANT WITH SQUAREtWITH ARCdDOWNWARDS ZIGZAG ARROW",
  "RIGHT ARC GREATER-THAN BRACKETwROW WITH CIRCLED PLUSmSMALL CIRCLExBLACK LENTICULAR BRACKET",
  "RIGHT BLACK TORTOISE SHELL BRACKET",
  "RIGHT CEILINGgORNER BRACKETnURLY BRACKETa LOWER HOOKkMIDDLE PIECEmUPPER HOOK",
  "RIGHT DOTTED SUBSTITUTION BRACKETzUBLE ANGLE BRACKETmRROW WITH ROUNDED HEADxPARENTHESIS",
  "RIGHT DOUBLE QUOTATION MARKoWIGGLY FENCEtFISH TAILhVE EIGHTHS BLOCKrLOORfHALF BLACK CIRCLE",
  "RIGHT HALF BLACK STARiOCKfFOLDERgMEDIUM SHADEmRUNNING MANoND TELEPHONE RECEIVER",
  "RIGHT LOW PARAPHRASE BRACKETwNORMAL FACTOR SEMIDIRECT PRODUCT",
  "RIGHT ONE EIGHTH BLOCKmQUARTER BLOCKqPEN SQUARED DOTpUTER JOINkPARENTHESISa EXTENSION",
  "RIGHT PARENTHESIS LOWER HOOKkUPPER HOOKwRAISED OMISSION BRACKETxS-SHAPED BAG DELIMITER",
  "RIGHT SEMIDIRECT PRODUCTqVEN EIGHTHS BLOCKsIDEWAYS U BRACKETqNGLE QUOTATION MARKuPEAKER",
  "RIGHT SPEAKER WITH ONE SOUND WAVEoTHREE SOUND WAVES",
  "RIGHT SPEECH BUBBLEmQUARE BRACKETa EXTENSIONjLOWER CORNERmUPPER CORNERmWITH DOUBLE STROKE",
  "RIGHT SQUARE BRACKET WITH QUILLfSTROKEgTICK IN BOTTOM CORNERnTOP CORNERsUNDERBAR",
  "RIGHT SUBSTITUTION BRACKETuTACKdHIRD WHITE RIGHT POINTING INDEX",
  "RIGHT THOUGHT BUBBLEmREE EIGHTHS BLOCKnQUARTERS BLOCKtORTOISE SHELL BRACKET",
  "RIGHT TRANSPOSITION BRACKETtIANGLEa ABOVE LEFT TRIANGLEwULAR ONE QUARTER BLOCK",
  "RIGHT VERTICAL BAR WITH QUILLnOX LINErWHITE CORNER BRACKETnURLY BRACKETnLENTICULAR BRACKET",
  "RIGHT WHITE PARENTHESISlSQUARE BRACKEToTORTOISE SHELL BRACKET",
  "RIGHT WIGGLY FENCEn-FACING ARMENIAN ETERNITY SIGNwFISTeSVASTI SIGNa WITH DOTS",
  "RIGHT-HANDED INTERLACED PENTAGRAM",
  "RIGHT-POINTING ANGLE BRACKETnCURVED ANGLE BRACKETuDOUBLE ANGLE QUOTATION MARK",
  "RIGHT-POINTING MAGNIFYING GLASSzSHADED WHITE RIGHTWARDS ARROW",
  "RIGHT-SIDE ARC CLOCKWISE ARROWyTO-LEFT EMBEDDINGjISOLATEhMARKeOVERRIDErHAND INTERIOR PRODUCT",
  "RIGHTWARDS ARROWa ABOVE ALMOST EQUAL TOpREVERSE ALMOST EQUAL TOpTILDE OPERATOR",
  "RIGHTWARDS ARROW ABOVE SHORT LEFTWARDS ARROWvTILDE OPERATOR",
  "RIGHTWARDS ARROW AND UPPER AND LOWER ONE EIGHTH BLOCK",
  "RIGHTWARDS ARROW FROM BARa TO BLACK DIAMONDzOVER LEFTWARDS ARROWuTHROUGH GREATER-THANmSUPERSET",
  "RIGHTWARDS ARROW THROUGH XiO BARcLACK DIAMONDqWITH CORNER DOWNWARDSqDOTTED STEM",
  "RIGHTWARDS ARROW WITH DOUBLE VERTICAL STROKEwEQUILATERAL ARROWHEADvHOOK",
  "RIGHTWARDS ARROW WITH LARGE TRIANGLE ARROWHEADxOOPeMEDIUM TRIANGLE ARROWHEADzNOTCHED TAIL",
  "RIGHTWARDS ARROW WITH PLUS BELOWkSMALL EQUILATERAL ARROWHEADvTRIANGLE ARROWHEADxTROKEgTAIL",
  "RIGHTWARDS ARROW WITH TAIL WITH DOUBLE VERTICAL STROKEwVERTICAL STROKEyIP DOWNWARDSjUPWARDS",
  "RIGHTWARDS ARROW WITH VERTICAL STROKEv-TAILkBACK-TILTED SHADOWED WHITE ARROW",
  "RIGHTWARDS BLACK ARROWfCIRCLED WHITE ARROWyOTTOM SHADED WHITE ARROWzCOMPRESSED ARROW",
  "RIGHTWARDS DASHED ARROWlOUBLE ARROWa FROM BARiWITH STROKEgVERTICAL STROKEv-TAILkDASH ARROW",
  "RIGHTWARDS FINGER-POST ARROWqRONT-TILTED SHADOWED WHITE ARROW",
  "RIGHTWARDS HANDcRPOON OVER LEFTWARDS HARPOON",
  "RIGHTWARDS HARPOON WITH BARB DOWN ABOVE LEFTWARDS HARPOON WITH BARB DOWN",
  "RIGHTWARDS HARPOON WITH BARB DOWN BELOW LONG DASHpFROM BARiTO BARhWARDS",
  "RIGHTWARDS HARPOON WITH BARB UP ABOVE LEFTWARDS HARPOON WITH BARB UP",
  "RIGHTWARDS HARPOON WITH BARB UP ABOVE LONG DASHjRIGHTWARDS HARPOON WITH BARB DOWN",
  "RIGHTWARDS HARPOON WITH BARB UP FROM BARiTO BARhWARDSyEAVY ARROWfCOMPRESSED ARROW",
  "RIGHTWARDS LEFT-SHADED WHITE ARROWxOPEN-HEADED ARROWrPAIRED ARROWSnQUADRUPLE ARROW",
  "RIGHTWARDS RIGHT-SHADED WHITE ARROWxOCKETgSANS-SERIF ARROWpQUARED ARROWkIGGLE ARROW",
  "RIGHTWARDS TOP SHADED WHITE ARROWvRIANGLE ARROWHEADk-HEADED ARROW",
  "RIGHTWARDS TRIANGLE-HEADED ARROW OVER LEFTWARDS TRIANGLE-HEADED ARROW",
  "RIGHTWARDS TRIANGLE-HEADED ARROW TO BARgWITH BOLD SHAFTkDOUBLE HORIZONTAL STROKE",
  "RIGHTWARDS TRIANGLE-HEADED ARROW WITH DOUBLE VERTICAL STROKEwHEAVY SHAFTlLONG TIP DOWNWARDS",
  "RIGHTWARDS TRIANGLE-HEADED ARROW WITH LONG TIP UPWARDSqMEDIUM SHAFTmNARROW SHAFT",
  "RIGHTWARDS TRIANGLE-HEADED ARROW WITH VERY HEAVY SHAFT",
  "RIGHTWARDS TRIANGLE-HEADED DASHED ARROWmPAIRED ARROWS",
  "RIGHTWARDS TRIPLE ARROWfDASH ARROWqWO HEADED ARROWn-HEADED ARROW FROM BAR",
  "RIGHTWARDS TWO-HEADED ARROW WITH DOUBLE VERTICAL STROKEwTAILa WITH DOUBLE VERTICAL STROKE",
  "RIGHTWARDS TWO-HEADED ARROW WITH TAIL WITH VERTICAL STROKEyRIANGLE ARROWHEADStVERTICAL STROKE",
  "RIGHTWARDS TWO-HEADED TRIPLE DASH ARROW",
  "RIGHTWARDS WAVE ARROWjHITE ARROWa FROM WALLjWITHIN TRIANGLE ARROWHEAD",
  "RINGa ABOVEfBUOYeEQUAL TOiIN EQUAL TOlOPERATORiPOINTgED PLANETjING BELL",
  "RISING DIAGONAL CROSSING FALLING DIAGONALqSOUTH EAST ARROW",
  "RLEbIbMbOcOASTED SWEET POTATOsBOT FACEiCKaETeLL OF PAPERjED-UP NEWSPAPERoR COASTERhSKATE",
  "ROLLING ON THE FLOOR LAUGHING",
  "ROMAN AS SIGNhCENTURIAL SIGNoDENARIUS SIGNmIMIDIA SEXTULA SIGNtUPONDIUS SIGNoNUMERAL EIGHT",
  "ROMAN NUMERAL ELEVENgFIFTYa EARLY FORMkTHOUSANDmVEa HUNDREDhTHOUSANDmOUReNINEeONEa HUNDRED",
  "ROMAN NUMERAL ONE HUNDRED THOUSANDqTHOUSANDa C DqREVERSED ONE HUNDREDuSEVENeIXa LATE FORMnTEN",
  "ROMAN NUMERAL TEN THOUSANDlHREEeWELVEeOlQUINARIUS SIGNoSEMUNCIA SIGNlSTERTIUS SIGNnXTANS SIGN",
  "ROMAN SEXTULA SIGNlILIQUA SIGNmUNCIA SIGNoOSTERfSEaTTEfTATED CAPITAL QjFLORAL HEART BULLET",
  "ROTATED HEAVY BLACK HEART BULLETyLIGHT FOUR POINTED BLACK CUSP",
  "ROTATED WHITE FOUR POINTED CUSP",
  "ROUND PUSHPINhTARGEThED SYMBOL FOR CAIdFUcLUcSHOUcUANGXIiXItWBOATgSbUBLE SIGNiGBY FOOTBALL",
  "RULE-DELAYEDkMI DIGIT EIGHTfFIVEdOUReNINEeONEdSEVENeIXdTHREEeWOjFRACTION ONE HALFeQUARTER",
  "RUMI FRACTION ONE THIRDjTWO THIRDStNUMBER EIGHT HUNDREDiYgFIFTYdVE HUNDREDlORTYdUR HUNDRED",
  "RUMI NUMBER NINE HUNDREDiTYgONE HUNDREDlSEVEN HUNDREDiTYgIX HUNDREDiTYfTENcHIRTYeREE HUNDRED",
  "RUMI NUMBER TWENTYeO HUNDREDvNIC ARLAUG SYMBOLnBELGTHOR SYMBOLpCROSS PUNCTUATIONrLETTER AC A",
  "RUNIC LETTER AESCdLGIZ EOLHXkNSUZ AhBERKANAN BEORC BJARKAN ByCaALCdEALCdNcWEORTHhDaAGAZ DAEG D",
  "RUNIC LETTER DOTTED-LbNbPiEaARcHWAZ EH EjNGcTHdFEHU FEOH FE FnRANKS CASKET ACbESCeEHcIScOSqG",
  "RUNIC LETTER GARcEBO GYFU GjRdHAEGL HfGLAZ HiICELANDIC-YRlNGaWAZfORcSAZ IS ISS ImWAZ EOH",
  "RUNIC LETTER JERAN JhKaAUN KcAfLAUKAZ LAGU LOGR LrONG-BRANCH-AR AEfHAGALL HiMADR MgOSS OfYR",
  "RUNIC LETTER MANNAZ MAN MmNAUDIZ NYD NAUD NrOaEbNbObPEN-PfS OdTHALAN ETHEL OpPERTHO PEORTH PpQ",
  "RUNIC LETTER RAIDO RAD REID RqSHaORT-TWIG-AR AeBJARKAN BjHAGALL HiMADR MgNAUD NgOSS OfSOL S",
  "RUNIC LETTER SHORT-TWIG-TYR TfYRmIGEL LONG-BRANCH-SOL SwOWILO ShTANeTHURISAZ THURS THORN",
  "RUNIC LETTER TIWAZ TIR TYR TpURUZ UR UjVbWaUNJO WYNN WmXbYaRcZiMULTIPLE PUNCTUATION",
  "RUNIC SINGLE PUNCTUATIONsTVIMADUR SYMBOLsNERcING SHIRT WITH SASHvPEE SIGN",
  "RUSSIAN ASTROLOGICAL SYMBOL BINOVILEiNOVILEgQUINTILEiSENTAGONiTREDECILEjVIGINTILE",
  "S IN TRIANGLEmAFETY PINdVESTjGITTARIUSjILBOATgKE BOTTLE AND CUPrLT SHAKERhIREeUTING FACE",
  "SAMARITAN ABBREVIATION MARKrLETTER ALAFeBAAcITdDALATfFIcGAMANfINbTbYcKAAFeLABATfMIMdNUNdQUF",
  "SAMARITAN LETTER RISHeSHANdINGAAThTAAFdITcSAADIYhYUTdZENkMARK DAGESHgEPENTHETIC YUToINa-ALAF",
  "SAMARITAN MARK NEQUDAAhOCCLUSIONnODIFIER LETTER EPENTHETIC YUToIbSHORT AxPUNCTUATION AFSAAQ",
  "SAMARITAN PUNCTUATION ANGEDdNAAUfRKAANUgTMAAUgBAUdMELODIC QITSAnNEQUDAAhQITSAfSHIYYAALAA",
  "SAMARITAN PUNCTUATION SOF MASHFAATmTURUeZAEFdIQAArVOWEL SIGN AaAcEbIbLONG AaAcEbIbUgO",
  "SAMARITAN VOWEL SIGN OVERLONG AaAlSHORT AgUKUNfUuNDWICH",
  "SANS-SERIF HEAVY DOUBLE COMMA QUOTATION MARK ORNAMENT",
  "SANS-SERIF HEAVY DOUBLE TURNED COMMA QUOTATION MARK ORNAMENT",
  "SANS-SERIF HEAVY LOW DOUBLE COMMA QUOTATION MARK ORNAMENT",
  "SANS-SERIF INTERROBANG ORNAMENT",
  "SARIcTELLITEa ANTENNAoURNeURASHTRA CONSONANT SIGN HAARUuDANDAeIGIT EIGHTfFIVEdOUReNINEeONE",
  "SAURASHTRA DIGIT SEVENeIXdTHREEeWOdZEROjOUBLE DANDAmLETTER AaAbIbUcBAbHAdCAbHAdDAbDAbHAdHAdEaE",
  "SAURASHTRA LETTER GAbHAdHAcIaIcJAbHAdKAbHAdLAbLAdMAcNAbGAcNAcYAdOaOcPAbHAdRAcSAbHAcSAdTAbHAcTA",
  "SAURASHTRA LETTER TTHAeUaUcVAbOCALIC LaLcRaRkYAjSIGN ANUSVARAiCANDRABINDUlVIRAMAeSARGA",
  "SAURASHTRA VOWEL SIGN AAbIbUcEaEcIaIcOaOcUaUcVOCALIC LaLcRaR",
  "SAUROPODgXOPHONEiCALESdRFdHOOLa SATCHELmIbOOTEReRPIONcUSgREENcWDRIVERiIPT CAPITAL BbEbFbHbIbL",
  "SCRIPT CAPITAL MbPbRjLIGATURE ET ORNAMENTuSMALL EbGbLbOlOLLdUPLEgEALbTcCOND PLACE MEDAL",
  "SECTION SIGNiOReDNAdE-NO-EVIL MONKEYpDLINGgGMENTaED DIGIT EIGHTfFIVEdOUReNINEeONEdSEVENeIX",
  "SEGMENTED DIGIT THREEeWOdZEROsLFIEeMICOLONfDIRECT PRODUCT WITH BOTTOM CLOSED",
  "SEMISEXTILEjPARATED SYMBOLoRIOUS FACE WITH SYMBOLS COVERING MOUTH",
  "SERVICE MARKkSAME DOThQUIQUADRATEmT MINUSfTRANSMIT STATEqWING NEEDLElXTILEgGC",
  "SHADOWED WHITE CIRCLEgLATIN CROSSlSTARqLLOW PAN OF FOODqMROCKfRADA ABBREVIATION SIGN",
  "SHARADA CONTINUATION SIGNrDANDAeIGIT EIGHTfFIVEdOUReNINEeONEdSEVENeIXdTHREEeWOdZERO",
  "SHARADA DOUBLE DANDAmEKAMdXTRA SHORT VOWEL MARKwHEADSTROKEkLETTER AaAbIbUcBAbHAdCAbHAdDAbDAbHA",
  "SHARADA LETTER DHAdEbGAbHAdHAcIaIcJAbHAdKAbHAdLAbLAdMAcNAbGAcNAcYAdObPAbHAdRAcSAbHAcSAdTAbHA",
  "SHARADA LETTER TTAbHAeUaUcVAbOCALIC LaLcRaRkYAjOMcSANDHI MARKkECTION MARK-1b2mPARATOR",
  "SHARADA SIGN ANUSVARAhVAGRAHAiCANDRABINDUlINVERTED CANDRABINDUuJIHVAMULIYAlNUKTAfSIDDHAM",
  "SHARADA SIGN UPADHMANIYAlVIRAMAeSARGAlUTRA MARKkVOWEL MODIFIER MARKnSIGN AAbIbUcEbIaIcO",
  "SHARADA VOWEL SIGN PRISHTHAMATRA EpUaUcVOCALIC LaLcRaRzKcVED ICEgIAN LETTER ADOcGEcHbIRcREbRAY",
  "SHAVIAN LETTER ASHcWEdBIBdCHURCHgDEADeEARbTcGGcRRdFEEdGAGdHA-HAeUNGeIANcCEcFcJUDGEfKICKeLOLL",
  "SHAVIAN LETTER MEASUREgIMEeNUNdOAKcILcNbOZEdRbUTdPEEPeROAReSObUREeTHEYcIGHeOTdUPcVOWdWOEbOL",
  "SHAVIAN LETTER YEAbWdZOOqEEPdIELDdFT INcOUTgNTO SHRINEkPcOCKED FACE WITH EXPLODING HEAD",
  "SHOOTING STARkPPING BAGSeTROLLEYnRT BACKSLANTED SOUTH ARROW",
  "SHORT BENT ARROW POINTING DOWNWARDS THEN NORTH EAST",
  "SHORT DOWN TACKa WITH OVERBARwLEFT TACKjRIGHTWARDS ARROW ABOVE LEFTWARDS ARROW",
  "SHORT SLANTED NORTH ARROWtUP TACKa ABOVE SHORT DOWN TACKvWITH UNDERBARwCAKE",
  "SHORTHAND FORMAT CONTINUING OVERLAPsDOWN STEPjLETTER OVERLAPoUP STEPtSdULDERED OPEN BOXqWER",
  "SHRIMPdUGdUFFLE PRODUCTnYcIaDDHAM DANDAeOUBLE DANDAmEND OF TEXT MARKqLETTER AaAbIbLTERNATE UkU",
  "SIDDHAM LETTER BAbHAdCAbHAdDAbDAbHAdHAdEbGAbHAdHAcIaIcJAbHAdKAbHAdLAcMAcNAbGAcNAcYAdObPAbHAdRA",
  "SIDDHAM LETTER SAbHAcSAdTAbHAbREE-CIRCLE ALTERNATE IxTAbHAdWO-CIRCLE ALTERNATE IaIxUaUcVA",
  "SIDDHAM LETTER VOCALIC LaLcRaRkYAjREPETITION MARK-1b2b3rSECTION MARK DOUBLE RINGa WITH RAYS",
  "SIDDHAM SECTION MARK WITH CIRCLES AND FOUR ENCLOSURESpRAYSeTWO ENCLOSURES",
  "SIDDHAM SECTION MARK WITH DOUBLE CRESCENTSqQUADRUPLE CRESCENTStRAYS AND DOTTED CRESCENTS",
  "SIDDHAM SECTION MARK WITH RAYS AND DOTTED DOUBLE CRESCENTSqTRIPLE CRESCENTS",
  "SIDDHAM SECTION MARK WITH SEPTUPLE CRESCENTSsTRIDENT AND DOTTED CRESCENTSqU-SHAPED ORNAMENTS",
  "SIDDHAM SECTION MARK WITH TRIPLE CRESCENTS",
  "SIDDHAM SEPARATOR BARdDOTmIGN ANUSVARAiCANDRABINDUlNUKTAfSIDDHAMhVIRAMAeSARGAmVOWEL SIGN AAbI",
  "SIDDHAM VOWEL SIGN ALTERNATE UaUlUcEbIaIcObUaUcVOCALIC RaR",
  "SIDEWAYS BLACK DOWN POINTING INDEXtLEFT POINTING INDEXtRIGHT POINTING INDEXuUP POINTING INDEX",
  "SIDEWAYS WHITE DOWN POINTING INDEXtLEFT POINTING INDEXtRIGHT POINTING INDEXuUP POINTING INDEX",
  "SIGN OF THE HORNSnWRITING AIR BLOW SMALL ROTATIONSqING OUTlSUCK SMALL ROTATIONSqING IN",
  "SIGNWRITING BREATH EXHALEgINHALElUSH BETWEENhMULTIPLEiSINGLEmCHEEKS NEUTRALhPUFFEDgSUCKEDmOLON",
  "SIGNWRITING COMMAfDREAMY EYEBROWS DOWN NEUTRALmNEUTRAL DOWNeUPkUP NEUTRAL",
  "SIGNWRITING DYNAMIC ARROWHEAD LARGEfSMALLpEVERY OTHER TIMEqFASTeGRADUALhRELAXEDhSIMULTANEOUS",
  "SIGNWRITING DYNAMIC SIMULTANEOUS ALTERNATINGxLOWeTENSEnEARSdXCITEMENTjYE BLINK MULTIPLEiSINGLE",
  "SIGNWRITING EYE WINKfBROWS STRAIGHT DOWNeNEUTRALhUPrGAZE-FLOORPLANE CURVEDgSTRAIGHT",
  "SIGNWRITING EYEGAZE-FLOORPLANE STRAIGHT ALTERNATINGlDOUBLE",
  "SIGNWRITING EYEGAZE-WALLPLANE CIRCLINGhURVEDgSTRAIGHTa ALTERNATINGlDOUBLE",
  "SIGNWRITING EYELASHES DOWNeFLUTTERINGkUPjS CLOSEDgHALF CLOSEDgOPENjOPENeSQUEEZEDiWIDE OPEN",
  "SIGNWRITING EYES WIDENING MOVEMENTwFACE DIRECTION POSITION NOSE FORWARD TILTINGpUP OR DOWN",
  "SIGNWRITING FACE DIRECTION POSITION NOSE UP OR DOWN TILTING",
  "SIGNWRITING FILL MODIFIER-2b3b4b5b6nNGERfLICK LARGE MULTIPLEiSINGLEmSEQUENTIALjMALL MULTIPLE",
  "SIGNWRITING FLICK SMALL SINGLEqOORPLANE SHOULDER HIP MOVE",
  "SIGNWRITING FOREHEAD CONTACThNEUTRALhWRINKLEDqULL STOPjGRASP BETWEENhMULTIPLEiSINGLEmHAIR",
  "SIGNWRITING HAND-ANGLEa INDEXa MIDDLE LITTLEgRINGlRING LITTLEa OUTpTHUMBa INcOUTpLITTLE INDEX",
  "SIGNWRITING HAND-ANGLE LITTLE INDEX THUMB INDEX THUMBa OUT",
  "SIGNWRITING HAND-ANGLE LITTLE UPjMIDDLE RING LITTLEa INcOUTwRING DOWN MIDDLE THUMB INDEX CROSS",
  "SIGNWRITING HAND-ANGLE RING LITTLErCIRCLEa INDEXa BENTeHINGEfMIDDLEa CROSS LITTLEhEDhLITTLE",
  "SIGNWRITING HAND-CIRCLE INDEX MIDDLE RINGeTHUMBmRING LITTLErLITTLE INDEXfUPjMIDDLE RING LITTLE",
  "SIGNWRITING HAND-CIRCLE MIDDLE RING LITTLE BENTqUPjRING LITTLErLAWa FOUR FINGERS CONJOINED",
  "SIGNWRITING HAND-CLAW INDEX THUMB CURVE THUMB INSIDE",
  "SIGNWRITING HAND-CLAW MIDDLE RING LITTLE CONJOINEDa SIDE",
  "SIGNWRITING HAND-CLAW NO THUMBiTHUMB FORWARDhSIDEoUPa FIVE FINGERS SPREADa OPENyINDEX",
  "SIGNWRITING HAND-CUP INDEX RING LITTLElTHUMBa OPENqMIDDLE RING LITTLEsNO THUMBiOPENa NO THUMB",
  "SIGNWRITING HAND-CUP OPEN THUMB FORWARDhSIDEpTHUMB FORWARDhSIDEmRLICUEa INDEX RING LITTLE ON",
  "SIGNWRITING HAND-CURLICUE MIDDLE RING LITTLE ONvOPENnFISTa FOUR FINGERS CONJOINED BENT",
  "SIGNWRITING HAND-FIST HEELeINDEXa BENTa OVER MIDDLEqCUPPEDgHINGEDa LOWdMIDDLE UPa THUMB SIDE",
  "SIGNWRITING HAND-FIST INDEX MIDDLEa BENTa THUMB STRAIGHTtCONJOINEDa CUPPEDa THUMB FORWARD",
  "SIGNWRITING HAND-FIST INDEX MIDDLE CONJOINED HINGEDa THUMB SIDErINDEX BENTkMIDDLE BENT",
  "SIGNWRITING HAND-FIST INDEX MIDDLE CONJOINED THUMB FORWARDhSIDEa BENTeCONJOINED",
  "SIGNWRITING HAND-FIST INDEX MIDDLE CROSS LITTLEhEDa THUMB SIDEsHINGEDa SPREAD THUMB SIDE",
  "SIGNWRITING HAND-FIST INDEX MIDDLE LITTLEgRAISED KNUCKLESoINGa BENTeCONJOINED",
  "SIGNWRITING HAND-FIST INDEX MIDDLE STRAIGHT THUMB BENTtTHUMBa ANGLEDa OUTkBENTeCIRCLED",
  "SIGNWRITING HAND-FIST INDEX MIDDLE THUMB CONJOINED HINGEDpUPPEDgHINGEDfOOKED",
  "SIGNWRITING HAND-FIST INDEX MIDDLE UP SPREAD THUMB FORWARD",
  "SIGNWRITING HAND-FIST INDEX RAISED KNUCKLEnING LITTLElTHUMB ANGLED IN MIDDLE UPmOUT MIDDLE UP",
  "SIGNWRITING HAND-FIST INDEX THUMB CIRCLEaD MIDDLE UPqUPPED MIDDLE UPoRLICUEfVE THUMB INSIDE",
  "SIGNWRITING HAND-FIST INDEX THUMB CURVE THUMB UNDERrFORWARD INDEX BENTeSTRAIGHTwHOOK",
  "SIGNWRITING HAND-FIST INDEX THUMB HOOKED MIDDLE HINGEDgUPqSIDEa BOTH BENTjINDEX BENTeHINGE",
  "SIGNWRITING HAND-FIST INDEX THUMB SIDE THUMB BENTeCONJOINEDjDIAGONALzUP MIDDLE HINGED",
  "SIGNWRITING HAND-FIST INDEX UP MIDDLE HINGED THUMB CONJOINEDjSIDE",
  "SIGNWRITING HAND-FIST LITTLE BENTeDOWNa OTHERS CIRCLEDoRIPPLE CURVEDgSTRAIGHTuINDEXa THUMB",
  "SIGNWRITING HAND-FIST LITTLE RAISED KNUCKLEoTHUMBeOUCHES THUMBnUPjMIDDLE BENT OVER INDEXpDOWN",
  "SIGNWRITING HAND-FIST MIDDLE LITTLEgRAISED KNUCKLEnING LITTLElTHUMB ANGLED INDEX UP",
  "SIGNWRITING HAND-FIST MIDDLE THUMB ANGLED OUT INDEX CROSSEDhUPtCIRCLED INDEX HINGEDgUP",
  "SIGNWRITING HAND-FIST MIDDLE THUMB CUPPED INDEX UPpHOOKED INDEX UPpLITTLEmUPa THUMB SIDE",
  "SIGNWRITING HAND-FIST RING DOWNeINDEXfLITTLEgMIDDLEa CONJOINEDjRAISED KNUCKLESwRAISED KNUCKLE",
  "SIGNWRITING HAND-FIST RING THUMBfUPhTHUMBa BETWEEN INDEX MIDDLEa STRAIGHTvMIDDLE RING",
  "SIGNWRITING HAND-FIST THUMB BETWEEN RING LITTLEtFORWARDhHEELeOVER FOUR RAISED KNUCKLES",
  "SIGNWRITING HAND-FIST THUMB OVER TWO FINGERSqSIDE BENTeCONJOINEDjDIAGONALnUNDER FOUR FINGERS",
  "SIGNWRITING HAND-FIST THUMB UNDER INDEX BENTkLITTLE UPjTHREE FINGERSmWO FINGERS",
  "SIGNWRITING HAND-FLATa BETWEEN PALM FACINGSuFIVE FINGERS SPREADa BENTeFOUR BENTjHINGED",
  "SIGNWRITING HAND-FLAT FIVE FINGERS SPREAD HINGED NO THUMBiTHUMB SIDErTHUMB FORWARD",
  "SIGNWRITING HAND-FLAT FOUR FINGERSa BENTeCONJOINEDa SPLITpHINGEDtHEELa FIVE FINGERS SPREAD",
  "SIGNWRITING HAND-FLAT HEEL FIVE FINGERS SPREAD BENTeFOUR BENT",
  "SIGNWRITING HAND-FLAT HEEL THUMB SIDEpSPLIT CENTREa THUMB SIDEa BENTwINDEX THUMB SIDEqLITTLE",
  "SIGNWRITING HAND-FLAT THUMB BENTeFORWARDhSIDEpHINGEa FIVE FINGERS SPREAD OPEN",
  "SIGNWRITING HAND-HINGE FOUR FINGERS CONJOINEDwINDEXa HINGEDgMIDDLE LITTLEgRINGa CONJOINED",
  "SIGNWRITING HAND-HINGE INDEX RING LITTLElTHUMBa LARGEfOPENeSIDEdMALLrLITTLEa INDEXa THUMB",
  "SIGNWRITING HAND-HINGE LITTLE THUMBmMIDDLEa RING LITTLEsNO THUMBiOPENa NO THUMBiTHUMB FORWARD",
  "SIGNWRITING HAND-HINGE OPEN THUMB SIDEpRINGa DOWN INDEX THUMB HOOK MIDDLE",
  "SIGNWRITING HAND-HINGE SMALLfTHUMB BETWEEN MIDDLE RINGtSIDEa TOUCHING INDEX",
  "SIGNWRITING HAND-HOOKa CURLICUEiINDEX RING LITTLE INcOUTdUNDERxMIDDLE RING LITTLE CONJOINED",
  "SIGNWRITING HAND-HOOK MIDDLE RING LITTLE CONJOINED INcOUTzTHUMBmRING THUMBpOVAL",
  "SIGNWRITING HAND-OVAL FIVE FINGERS SPREADtINDEXfLITTLE UPjNO THUMBiRING LITTLElTHUMB FORWARD",
  "SIGNWRITING HAND-OVAL THUMB SIDEtEADa MOVEMENT CIRCLEh-FLOORPLANE CURVEfSTRAIGHT",
  "SIGNWRITING HEAD MOVEMENT-WALLPLANE CURVEfSTRAIGHTiTILTxRIMiLIMB COMBINATIONlLENGTH-1b2b3b4b5",
  "SIGNWRITING LIMB LENGTH-6b7lP LOWER OVER UPPERqUPPER OVER LOWERrS PRESSED TOGETHER",
  "SIGNWRITING LOCATION DEPTHfHEAD NECKhIGHTgLIMBS DIGITSmTORSOfWIDTHg-FLOORPLANE SPACE",
  "SIGNWRITING LOCATION-WALLPLANE SPACEyMOUTH CLOSED CONTACThFORWARDhNEUTRALnORNERShFROWNa OPEN",
  "SIGNWRITING MOUTH FROWN WRINKLEDoKISSa FORWARDhWRINKLEDnOPEN CIRCLEgFORWARDhOVALa WRINKLED",
  "SIGNWRITING MOUTH OPEN OVAL YAWNjRECTANGLEa WRINKLEDiYAWNoWRINKLEDnSMILEa OPENeWRINKLEDoTENSE",
  "SIGNWRITING MOUTH TENSE FORWARDhSUCKEDmWRINKLES DOUBLEgSINGLEtVEMENT-DIAGONAL AWAY LARGEaST",
  "SIGNWRITING MOVEMENT-DIAGONAL AWAY MEDIUMgSMALLkBETWEEN AWAY LARGEaSThMEDIUMgSMALL",
  "SIGNWRITING MOVEMENT-DIAGONAL BETWEEN TOWARDS LARGEaSThMEDIUMgSMALLvTOWARDS LARGEaSThMEDIUM",
  "SIGNWRITING MOVEMENT-DIAGONAL TOWARDS SMALLwFLOORPLANE ARM CIRCLE HITTING WALL LARGE DOUBLE",
  "SIGNWRITING MOVEMENT-FLOORPLANE ARM CIRCLE HITTING WALL LARGE SINGLEmMEDIUM DOUBLEgSINGLE",
  "SIGNWRITING MOVEMENT-FLOORPLANE ARM CIRCLE HITTING WALL SMALL DOUBLEgSINGLE",
  "SIGNWRITING MOVEMENT-FLOORPLANE BENDdOX LARGEfMEDIUMgSMALLjCHECKeORNER LARGEfMEDIUMgSMALLlROSS",
  "SIGNWRITING MOVEMENT-FLOORPLANE CURVE COMBINEDiHITTING CEILING LARGEfSMALLnFLOOR LARGEfSMALL",
  "SIGNWRITING MOVEMENT-FLOORPLANE CURVE LARGEaSThMEDIUMgSMALLlDOUBLE ALTERNATINGa WRIST FLEX",
  "SIGNWRITING MOVEMENT-FLOORPLANE DOUBLE STRAIGHTiWRIST FLEXrFINGER CIRCLES HITTING WALL DOUBLE",
  "SIGNWRITING MOVEMENT-FLOORPLANE FINGER CIRCLES HITTING WALL SINGLE",
  "SIGNWRITING MOVEMENT-FLOORPLANE FINGER CONTACToHUMP HITTING CEILING LARGE DOUBLEgTRIPLE",
  "SIGNWRITING MOVEMENT-FLOORPLANE HUMP HITTING CEILING SMALL DOUBLEgTRIPLEuFLOOR LARGE DOUBLE",
  "SIGNWRITING MOVEMENT-FLOORPLANE HUMP HITTING FLOOR SMALL DOUBLEmTRIPLE LARGE TRIPLE",
  "SIGNWRITING MOVEMENT-FLOORPLANE HUMP HITTING FLOOR TRIPLE SMALL TRIPLE",
  "SIGNWRITING MOVEMENT-FLOORPLANE HUMP SMALLkJAWdLOOP HITTING CEILING LARGE DOUBLEgSINGLE",
  "SIGNWRITING MOVEMENT-FLOORPLANE LOOP HITTING CEILING SMALL DOUBLEgSINGLEuFLOOR LARGE DOUBLE",
  "SIGNWRITING MOVEMENT-FLOORPLANE LOOP HITTING FLOOR LARGE SINGLEmSMALL DOUBLEgSINGLE",
  "SIGNWRITING MOVEMENT-FLOORPLANE LOOP SMALLkPEAKS LARGEfMEDIUMgSMALLlSHAKING PARALLEL",
  "SIGNWRITING MOVEMENT-FLOORPLANE SINGLE STRAIGHT LARGEaSThMEDIUMgSMALLoWRIST FLEX",
  "SIGNWRITING MOVEMENT-FLOORPLANE TRIPLE ALTERNATING MOVEMENTiWRIST FLEXwSTRAIGHT MOVEMENT",
  "SIGNWRITING MOVEMENT-FLOORPLANE TRIPLE WRIST FLEXrWAVE HITTING CEILING LARGEfSMALLnFLOOR LARGE",
  "SIGNWRITING MOVEMENT-FLOORPLANE WAVE HITTING FLOOR SMALLtLARGEfSMALLeNAKE",
  "SIGNWRITING MOVEMENT-FLOORPLANE WRIST CIRCLE HITTING WALL DOUBLEgSINGLE",
  "SIGNWRITING MOVEMENT-FLOORPLANE ZIGZAG LARGEfMEDIUMgSMALLxHINGE DOWN SEQUENTIAL",
  "SIGNWRITING MOVEMENT-HINGE SIDE TO SIDE SCISSORSvUP DOWN ALTERNATING LARGEfSMALLrLARGEfSMALL",
  "SIGNWRITING MOVEMENT-HINGE UP SEQUENTIALtWALLPLANE ARM CIRCLE MEDIUM DOUBLEgSINGLE",
  "SIGNWRITING MOVEMENT-WALLPLANE ARM CIRCLE SMALL DOUBLEgSINGLExBEND LARGEfMEDIUMgSMALLjOX LARGE",
  "SIGNWRITING MOVEMENT-WALLPLANE BOX MEDIUMgSMALLjCHECK LARGEfMEDIUMgSMALLkORNER LARGEfMEDIUM",
  "SIGNWRITING MOVEMENT-WALLPLANE CORNER ROTATIONiSMALLlROSSeURVE HALF-CIRCLE LARGEaSThMEDIUM",
  "SIGNWRITING MOVEMENT-WALLPLANE CURVE HALF-CIRCLE SMALLqITTING CHESTfFRONT WALLsQUARTER LARGE",
  "SIGNWRITING MOVEMENT-WALLPLANE CURVE QUARTER LARGESThMEDIUMgSMALLnTHEN STRAIGHT",
  "SIGNWRITING MOVEMENT-WALLPLANE CURVE THREE-QUARTER CIRCLE MEDIUMgSMALL",
  "SIGNWRITING MOVEMENT-WALLPLANE CURVED CROSS MEDIUMgSMALLsDOUBLE ALTERNATINGa WRIST FLEX",
  "SIGNWRITING MOVEMENT-WALLPLANE DOUBLE STRAIGHTiWRIST FLEXrFINGER CIRCLES DOUBLEgSINGLEnONTACT",
  "SIGNWRITING MOVEMENT-WALLPLANE HUMP HITTING CHESTfFRONT WALLsLARGEfMEDIUMgSMALLkJAW",
  "SIGNWRITING MOVEMENT-WALLPLANE LOOP HITTING CHESTfFRONT WALLsLARGEfMEDIUMgSMALLa DOUBLE",
  "SIGNWRITING MOVEMENT-WALLPLANE PEAKS LARGEfMEDIUMgSMALLlSHAKINGgINGLE STRAIGHT LARGEaSThMEDIUM",
  "SIGNWRITING MOVEMENT-WALLPLANE SINGLE STRAIGHT SMALLoWRIST FLEXrTRIPLE ALTERNATINGa WRIST FLEX",
  "SIGNWRITING MOVEMENT-WALLPLANE TRIPLE STRAIGHT MOVEMENTrWRIST FLEXrWAVE CURVE DOUBLE LARGE",
  "SIGNWRITING MOVEMENT-WALLPLANE WAVE CURVE DOUBLE MEDIUMgSMALLmTRIPLE LARGEfMEDIUMgSMALL",
  "SIGNWRITING MOVEMENT-WALLPLANE WAVE DIAGONAL PATH LARGEfMEDIUMgSMALLtHITTING CHESTfFRONT WALL",
  "SIGNWRITING MOVEMENT-WALLPLANE WRIST CIRCLE FRONT DOUBLEgSINGLEzZIGZAG LARGEfMEDIUMgSMALL",
  "SIGNWRITING NECKdOSE CONTACThNEUTRALhWIGGLESgRINKLESnPARENTHESISlROTATION MODIFIER-10b1b2b3b4",
  "SIGNWRITING ROTATION MODIFIER-15b6c2b3b4b5b6b7b8b9l-FLOORPLANE ALTERNATINGa HITTING CEILING",
  "SIGNWRITING ROTATION-FLOORPLANE ALTERNATING HITTING FLOORzDOUBLEa HITTING CEILINGhFLOORuSINGLE",
  "SIGNWRITING ROTATION-FLOORPLANE SINGLE HITTING CEILINGhFLOOR",
  "SIGNWRITING ROTATION-WALLPLANE ALTERNATEbING HITTING CHESTfFRONT WALL",
  "SIGNWRITING ROTATION-WALLPLANE DOUBLEa HITTING CHESTfFRONT WALLzSINGLEa HITTING CHEST",
  "SIGNWRITING ROTATION-WALLPLANE SINGLE HITTING FRONT WALL",
  "SIGNWRITING RUB BETWEENhMULTIPLEiSINGLEkSEMICOLONiHOULDER HIP POSITIONSjSPINE",
  "SIGNWRITING SHOULDER TILTING FROM WAIST",
  "SIGNWRITING SQUEEZE FLICK ALTERNATINGrLARGE MULTIPLEiSINGLEmSEQUENTIALjMALL MULTIPLEiSINGLE",
  "SIGNWRITING STRIKE BETWEENhMULTIPLEiSINGLEmURFACE BETWEENhSYMBOLSpTEETHa BITE LIPSjMOVEMENT",
  "SIGNWRITING TEETH ON LIPSa MOVEMENTnTONGUEa MOVEMENTwNSE CHEEKS HIGHeLOWdMIDDLE",
  "SIGNWRITING TONGUE CENTRE INSIDE MOUTHmSTICKING OUTtINSIDE MOUTH RELAXEDuLICKING LIPS",
  "SIGNWRITING TONGUE MOVES AGAINST CHEEKtSTICKING OUT FARqTIP BETWEEN LIPSmTOUCHING INSIDE MOUTH",
  "SIGNWRITING TORSO-FLOORPLANE TWISTINGtWALLPLANE CURVED BENDlSTRAIGHT STRETCH",
  "SIGNWRITING TOUCH BETWEENhMULTIPLEiSINGLElRAVEL-FLOORPLANE ROTATION-FLOORPLANE ALTERNATING",
  "SIGNWRITING TRAVEL-FLOORPLANE ROTATION-FLOORPLANE DOUBLEgSINGLErWALLPLANE ALTERNATINGlDOUBLE",
  "SIGNWRITING TRAVEL-FLOORPLANE ROTATION-WALLPLANE SINGLEzSHAKINGsWALLPLANE ARM SPIRAL DOUBLE",
  "SIGNWRITING TRAVEL-WALLPLANE ARM SPIRAL SINGLEgTRIPLErROTATION-FLOORPLANE ALTERNATINGlDOUBLE",
  "SIGNWRITING TRAVEL-WALLPLANE ROTATION-FLOORPLANE SINGLErWALLPLANE ALTERNATINGlDOUBLEgSINGLE",
  "SIGNWRITING TRAVEL-WALLPLANE SHAKINGyUPPER BODY TILTING FROM HIP JOINTS",
  "SIGNWRITING WALLPLANE SHOULDER HIP MOVE",
  "SILHOUETTE OF JAPANrMILAR ABOVE GREATER-THAN ABOVE EQUALS SIGN",
  "SIMILAR ABOVE LESS-THAN ABOVE EQUALS SIGN",
  "SIMILAR MINUS SIMILARnOR GREATER-THANmLESS-THANsNE WAVEgGLE CHARACTER INTRODUCER",
  "SINGLE GRAPHIC CHARACTER INTRODUCER",
  "SINGLE HIGH-REVERSED-9 QUOTATION MARK",
  "SINGLE LEFT-POINTING ANGLE QUOTATION MARK",
  "SINGLE LOW-9 QUOTATION MARKuRIGHT-POINTING ANGLE QUOTATION MARK",
  "SINGLE SHIFT THREEeWOk-SHIFT-2b3lHALA ARCHAIC DIGIT EIGHTfFIVEdOUReNINEeONEdSEVENeIXdTHREEeWO",
  "SINHALA ARCHAIC NUMBER EIGHTYgFIFTYeORTYfNINETYgONE HUNDREDhTHOUSANDmSEVENTYgIXTYfTENcHIRTY",
  "SINHALA ARCHAIC NUMBER TWENTYvLETTER AAYANNAgEEYANNAgYANNAgIYANNAgLPAPRAANA BAYANNAhCAYANNA",
  "SINHALA LETTER ALPAPRAANA DAYANNAgDAYANNAiGAYANNAhJAYANNAhKAYANNAhPAYANNAhTAYANNAgTAYANNA",
  "SINHALA LETTER AMBA BAYANNAlUYANNAgYANNAgDANTAJA LAYANNAhNAYANNAhSAYANNApEEYANNAgYANNAgFAYANNA",
  "SINHALA LETTER HAYANNAhIIYANNAgLUUYANNAgYANNAhRUUYANNAgYANNAhYANNAgKANTAJA NAASIKYAYA",
  "SINHALA LETTER MAHAAPRAANA BAYANNAhCAYANNAhDAYANNAgDAYANNAiGAYANNAhJAYANNAhKAYANNAhPAYANNA",
  "SINHALA LETTER MAHAAPRAANA TAYANNAgTAYANNAsYANNAgUURDHAJA LAYANNAhNAYANNAhSAYANNArOOYANNA",
  "SINHALA LETTER OYANNAgRAYANNAhSANYAKA DAYANNAgDAYANNAiGAYANNAhJAYANNApTAALUJA NAASIKYAYA",
  "SINHALA LETTER TAALUJA SANYOOGA NAAKSIKYAYAsYANNApUUYANNAgYANNAgVAYANNAhYAYANNA",
  "SINHALA LITH DIGIT EIGHTfFIVEdOUReNINEeONEdSEVENeIXdTHREEeWOdZEROpPUNCTUATION KUNDDALIYA",
  "SINHALA SIGN AL-LAKUNAiNUSVARAYAkCANDRABINDUlVISARGAYAoVOWEL SIGN AELA-PILLAkDIGA AEDA-PILLA",
  "SINHALA VOWEL SIGN DIGA GAETTA-PILLAkYANUKITTAlIS-PILLAiKOMBUVAhPAA-PILLAoGAETTA-PILLA",
  "SINHALA VOWEL SIGN GAYANUKITTAlKETTI AEDA-PILLAkIS-PILLAiPAA-PILLAoOMBU DEKAfVA",
  "SINHALA VOWEL SIGN KOMBUVA HAA AELA-PILLAkDIGA AELA-PILLApGAYANUKITTA",
  "SIX PETALLED BLACK AND WHITE FLORETTE",
  "SIX POINTED BLACK STARkPINWHEEL STARnSTAR WITH MIDDLE DOT",
  "SIX-PER-EM SPACEnTEEN POINTED ASTERISKxKATEBOARDiI AND SKI BOOTnERdULLa AND CROSSBONESrNK",
  "SLANTED EQUAL TO OR GREATER-THANa WITH DOT INSIDE",
  "SLANTED EQUAL TO OR LESS-THANa WITH DOT INSIDE",
  "SLANTED NORTH ARROW WITH HOOKED HEADjRIZONTAL TAIL",
  "SLAVONIC ASTERISKpEDbEPING ACCOMMODATIONnFACEeSYMBOLkY FACEiUTH OR SPYlICE OF PIZZA",
  "SLIGHTLY FROWNING FACEnSMILING FACEtOPEbING LARGE ANDdORnT MACHINEiHeMALL AIRPLANEhMPERSAND",
  "SMALL ASTERISKiBLUE DIAMONDmCOLONdMMAbERCIAL ATlNTAINS AS MEMBERjWITH OVERBAR",
  "SMALL CONTAINS WITH VERTICAL BAR AT END OF HORIZONTAL STROKE",
  "SMALL DOLLAR SIGNlELEMENT OFa WITH OVERBARhVERTICAL BAR AT END OF HORIZONTAL STROKE",
  "SMALL EM DASHgQUALS SIGNkXCLAMATION MARKqFULL STOPjGREATER-THAN SIGNrHYPHEN-MINUS",
  "SMALL IDEOGRAPHIC COMMArLEFT CURLY BRACKETnPARENTHESISlTORTOISE SHELL BRACKETzSS-THAN SIGN",
  "SMALL NUMBER SIGNlORANGE DIAMONDoPERCENT SIGNlLUS SIGNjQUESTION MARKnREVERSE SOLIDUS",
  "SMALL RIGHT CURLY BRACKETnPARENTHESISlTORTOISE SHELL BRACKET",
  "SMALL ROMAN NUMERAL EIGHTeLEVENgFIFTYdVEa HUNDREDlOUReNINEeONEa HUNDREDhTHOUSANDmSEVENeIXdTEN",
  "SMALL ROMAN NUMERAL THREEeWELVEeOrSEMICOLONjTILDEeWO DOTS OVER ONE DOT PUNCTUATION",
  "SMALL VEE WITH UNDERBARsER THANa OR EQUAL TOvSH PRODUCTlILE",
  "SMILING CAT FACE WITH HEART-SHAPED EYESrOPEN MOUTHyFACE WITH HALOdEART-SHAPED EYESqORNS",
  "SMILING FACE WITH OPEN MOUTHa AND COLD SWEATkSMILING EYESmTIGHTLY-CLOSED EYES",
  "SMILING FACE WITH SMILING EYESa AND HAND COVERING MOUTHtTHREE HEARTS",
  "SMILING FACE WITH SUNGLASSESkTEARtRKING FACElOKING SYMBOLnNAILcKEdEEZING FACE",
  "SNOW CAPPED MOUNTAINqBOARDERhFLAKEfMANa WITHOUT SNOWtOaCCER BALLiKSdFT HYPHENgICE CREAM",
  "SOFT SHELL FLOPPY DISKsBALLeWARE-FUNCTION SYMBOLwGDIAN COMBINING CURVE ABOVEfBELOWlDOT ABOVE",
  "SOGDIAN COMBINING DOT BELOWjHOOK ABOVEfBELOWkLONG HOOK BELOWpRESH BELOWkSTROKE BELOW",
  "SOGDIAN COMBINING TWO DOTS ABOVEfBELOWyINDEPENDENT SHINqLETTER ALEPHeYINeBETHeFETHeGIMELfHEaTH",
  "SOGDIAN LETTER KAPHeLAMEDHfESHeMEMdNUNdPEcRESH-AYINjSADHEdMEKHfHINeTAWdWAWdYODHeZAYIN",
  "SOGDIAN NUMBER ONEa HUNDREDlTENcWENTYnPUNCTUATION CIRCLE WITH DOTpHALF CIRCLE WITH DOT",
  "SOGDIAN PUNCTUATION TWO CIRCLES WITH DOTSrVERTICAL BARSa WITH DOTS",
  "SOHbLID QUILT SQUARE ORNAMENTa IN BLACK SQUARE",
  "SOLIDUSa WITH OVERBARsM SIGNgON WITH RIGHTWARDS ARROW ABOVE",
  "SORA SOMPENG DIGIT EIGHTfFIVEdOUReNINEeONEdSEVENeIXdTHREEeWOdZEROkLETTER AHcBAHdCAHdDAHdEEHcH",
  "SORA SOMPENG LETTER GAHdHAHdIHcJAHdKAHdLAHdMAEbHdNAHcGAHdYAHeOHcPAHdRAHdSAHdTAHdUHcVAHdYAHvS",
  "SOUND RECORDING COPYRIGHTwTH EAST ARROWa AND SOUTH WEST ARROWuCROSSING NORTH EAST ARROW",
  "SOUTH EAST ARROW TO CORNERjWITH HOOKpBLACK ARROWlDOUBLE ARROWmPOINTING BUDdLEAFeVINE LEAF",
  "SOUTH EAST SANS-SERIF ARROWqTRIANGLE-HEADED ARROWa TO BAR",
  "SOUTH EAST WHITE ARROWqWEST ARROWa AND NORTH WEST ARROWuWITH HOOKpBLACK ARROWlDOUBLE ARROW",
  "SOUTH WEST POINTING BUDdLEAFeVINE LEAFsSANS-SERIF ARROWqTRIANGLE-HEADED ARROWa TO BAR",
  "SOUTH WEST WHITE ARROWuYOMBO CLUSTER-INITIAL LETTER LAcRAcSAbHA",
  "SOYOMBO FINAL CONSONANT SIGN -AcBbDbGbKbLbMbNaGcRbSaHxGEMINATION MARK",
  "SOYOMBO HEAD MARK WITH MOON AND SUNa AND FLAMEfTRIPLE FLAME",
  "SOYOMBO LETTER -AcAbBAbHAdCAbHAdDAbDAbHAdHAcZAdGAbHAdHAcJAbHAdKAbHAcSSAeLAcMAcNAbGAcNAcYAdPA",
  "SOYOMBO LETTER PHAdRAcSAbHAcSAdTAbHAcSAbHAdTAbHAeVAcYAcZAbHAkMARK DOUBLE SHADlPLUTAfSHADeTSHEG",
  "SOYOMBO SIGN ANUSVARAiJIHVAMULIYAlUPADHMANIYAlVISARGAlUBJOINERjTERMINAL MARK-1b2",
  "SOYOMBO VOWEL LENGTH MARKlSIGN AIbUcEbIbOaEcUaEcVOCALIC LbR",
  "SPaAaCEcGHETTIgRKLEaScING HEARTnEAK-NO-EVIL MONKEYpERa WITH CANCELLATION STROKEtONE SOUND WAVE",
  "SPEAKER WITH THREE SOUND WAVESzING HEAD IN SILHOUETTEyECH BALLOONkDBOATgSMILO SIGN",
  "SPHERICAL ANGLEa OPENING LEFTeUPyIDERa WEBhRAL CALENDAR PADmNOTE PADiSHELL",
  "SPLASHING SWEAT SYMBOLuONGEdOL OF THREADlNcRTS MEDALjUTING WHALEnQUARE A OVER MhARUdMbNPEA",
  "SQUARE APAATOfRUHUAfUcBAARERUfRcEETAeIRUdORUTOfQbUSSYERUiC OVER KGiALbPcCbDbMa CUBEDfSQUAREDjO",
  "SQUARE CORPORATIONkUPdDAaASUeBbESIdJbLbMa CUBEDfSQUAREDjORUeEEKAAeRA NAME HEISEIgMEIZIfREIWA",
  "SQUARE ERA NAME SYOUWAgTAISYOUoGcSUKUUDOhVcFMbOOTcUR CORNERSmGALbNMAdRONeBbHZcIGAcNIIdRUDAAgPA",
  "SQUARE GURAMUaTONiYcHAaITUeEKUTAARUhRUTUfGbIRAGANA HOKAmONbONbRUePaAcUARADDOgIITOeRANeZ",
  "SQUARE IMAGE OFa OR EQUAL TOiNOT EQUAL TOxNaINGUeTIdUcK OHMeAaIRIdRATTOeORIIgBbCALdEESUeGbHZ",
  "SQUARE KIROaGURAMUgMEETORUhWATTOiKbLbMa CAPITALgUBEDfSQUAREDjOOPOdRUNAfPAcTbUROONEeUZEIROiVbW",
  "SQUARE KYURIIgLEFT OPEN BOX OPERATORvMbNbOGbZENGEgXcM CUBEDfOHMcVER Sa SQUAREDoSQUAREDiAaHHA",
  "SQUARE MAIKUROeRUdNSYONfRUKUfBa SMALLhEETORUfGAaTONgGbHZcIKURONfLbRIaBAARUiLbMa CUBEDfSQUARED",
  "SQUARE MOLcPAcSbU AbFbGbLbMbSbVbWdVa MEGAgWa MEGAhNAaNOdFbMbOTTOeSbVbWcONSUdOMUdRIGINAL OF",
  "SQUARE ORIGINAL OF OR EQUAL TOiNOT EQUAL TO",
  "SQUARE OVcPAa AMPSfASENTOfTUeCbEEZIdNIHIdSUdSOdFbHbIASUTORUhKObURUfMbOINTOeNDO",
  "SQUARE POSITION INDICATORrPMcRbSbVbWcRADa OVER Sa SQUAREDrEMUcNTOGENhIGHT OPEN BOX OPERATORvRA",
  "SQUARE RITTORUgOOTdUPIIdUBURUhSAIKURUfNTIIMUhENTIbOeIRINGUgRbVcTARGETfHZcONdUONdV OVER MiWATTO",
  "SQUARE WBbITH BOTTOM HALF BLACKrCONTOURED OUTLINErDIAGONAL CROSSHATCH FILLyHORIZONTAL FILL",
  "SQUARE WITH LEFT HALF BLACKoOWER LEFT DIAGONAL HALF BLACKyRIGHT DIAGONAL HALF BLACK",
  "SQUARE WITH ORTHOGONAL CROSSHATCH FILL",
  "SQUARE WITH RIGHT HALF BLACKqTOP HALF BLACKoUPPER LEFT DIAGONAL HALF BLACKtTO LOWER RIGHT FILL",
  "SQUARE WITH UPPER RIGHT DIAGONAL HALF BLACKtTO LOWER LEFT FILL",
  "SQUARE WITH VERTICAL FILLsYAADOcRUeUANfD ASTERISKiCJK UNIFIED IDEOGRAPH-4E00b9c2Dc8CcA4e518D",
  "SQUARED CJK UNIFIED IDEOGRAPH-521Dc4Dc72d3CCcF3d408c39d5B6d8F0d91Ac29dB57dDE6dF8Ce624Bc53c95",
  "SQUARED CJK UNIFIED IDEOGRAPH-6307c55d599cB0d620d708b9dE80dF14e7121d51Fc33d981dA7AdD42e89E3",
  "SQUARED CJK UNIFIED IDEOGRAPH-8CA9dD70e904Ad14DzLbOOLeDOT OPERATORmEIGHT K",
  "SQUARED FALLING DIAGONAL SLASHvIVE POINT ONEnOUR DOT PUNCTUATIONpKfREEeHCbDRcI-RESfVcID",
  "SQUARED KATAKANA DEcKOKOeSAkEYdLATIN CAPITAL LETTER AbBbCbDbEbFbGbHbIbJbKbLbMbNbObPbQbRbSbTbU",
  "SQUARED LATIN CAPITAL LETTER VbWbXbYbZqSMALL LETTER DtOGICAL ANDdORiSSLESSiMINUSeVcNEWcGcOK",
  "SQUARED ONE HUNDRED TWENTY PuPLUSdPVdRISING DIAGONAL SLASHvSALTIREgDbECOND SCREEN",
  "SQUARED SEVEN POINT ONEoHVcIXTY PgMALL CIRCLElOScQUAREfScTHREE DgIMESeWENTY-TWO POINT TWOsO K",
  "SQUARED UHDcP WITH EXCLAMATION MARKyVODcScWCgT BLACK RIGHTWARDS ARROWzIDeS2b3bAcTaADIUM",
  "STAFF OF AESCULAPIUSlHERMESmMPED ENVELOPEnNDING PERSONmR AND CRESCENTmEQUALSgOF DAVIDhPERATOR",
  "STAR WITH LEFT HALF BLACKpRIGHT HALF BLACKwT OF GUARDED AREAmHEADINGhPROTECTED AREA",
  "START OF SELECTED AREAmTRINGgTEXTkTIONdUE OF LIBERTYpEAM LOCOMOTIVElING BOWL",
  "STENOGRAPHIC FULL STOPtTHOSCOPEjICK FIGUREa LEANING LEFTeRIGHTnWITH ARMS RAISEDlDRESS",
  "STOCK CHARTiPWATCHhRAIGHT RULERgNESSiWBERRYhESS OUTLINED WHITE STARxICTLY EQUIVALENT TO",
  "STRING TERMINATORpSbUDIO MICROPHONEoFFED FLATBREADoPAdXcUBaSCRIPT EIGHTeQUALS SIGNlFIVEdOUR",
  "SUBSCRIPT LEFT PARENTHESISqMINUSfNINEeONEdPLUS SIGNjRIGHT PARENTHESISrSEVENeIXdTHREEeWOdZERO",
  "SUBSET ABOVE RIGHTWARDS ARROWqSUBSETePERSEToOFa ABOVE ALMOST EQUAL TOpEQUALS SIGNlNOT EQUAL TO",
  "SUBSET OF ABOVE TILDE OPERATORuOR EQUAL TOa WITH DOT ABOVE",
  "SUBSET OF WITH NOT EQUAL TOuWITH DOTdMULTIPLICATION SIGN BELOWzPLUS SIGN BELOWxTITUTEiCCEEDS",
  "SUCCEEDS ABOVE ALMOST EQUAL TOpEQUALS SIGNlNOT ALMOST EQUAL TOpEQUAL TO",
  "SUCCEEDS ABOVE SINGLE-LINE EQUALS SIGNlNOT EQUAL TO",
  "SUCCEEDS BUT NOT EQUIVALENT TOvOR EQUAL TOfIVALENT TOqUNDER RELATIONvMMATION BOTTOMgTOP",
  "SUMMATION WITH INTEGRALvNa BEHIND CLOUDmWITH FACEkDANESE AVAGRAHAiCONSONANT SIGN PAMINGKAL",
  "SUNDANESE CONSONANT SIGN PANYAKRAeIKUfSANGAN MAcWA",
  "SUNDANESE DIGIT EIGHTfFIVEdOUReNINEeONEdSEVENeIXdTHREEeWOdZEROkLETTER AaEcBAbHAdCAcDAcEaUcFA",
  "SUNDANESE LETTER FINAL KbMhGAcHAcIbJAcKAbHAdLAbEUdMAcNAbGAcYAdObPAcQAcRAbEUdSAbYAdTAcUbVAcWA",
  "SUNDANESE LETTER XAcYAcZAjPUNCTUATION BINDU BA SATANGAkCAKRAfDA SATANGAkKA SATANGAkLEU SATANGA",
  "SUNDANESE PUNCTUATION BINDU PANGLONGhURNAMAhSURYAxSIGN PAMAAEHfNGLAYARfWISADgYECEKiVIRAMA",
  "SUNDANESE VOWEL SIGN PAMEPETfNAELAENGhEULEUNGhGHULUfOLONGfYUKUzFLOWERgRISEa OVER MOUNTAINS",
  "SUNSET OVER BUILDINGStPERHEROeSCRIPT EIGHTeQUALS SIGNlFIVEdOUReLATIN SMALL LETTER IbN",
  "SUPERSCRIPT LEFT PARENTHESISqMINUSfNINEeONEdPLUS SIGNjRIGHT PARENTHESISrSEVENeIXdTHREEeWOdZERO",
  "SUPERSET ABOVE LEFTWARDS ARROWpSUBSETePERSEToBESIDE AND JOINED BY DASH WITH SUBSET",
  "SUPERSET BESIDE SUBSETnOFa ABOVE ALMOST EQUAL TOpEQUALS SIGNlNOT EQUAL TOmTILDE OPERATOR",
  "SUPERSET OF OR EQUAL TOa WITH DOT ABOVE",
  "SUPERSET OF WITH NOT EQUAL TOuPRECEDING SOLIDUSrWITH DOTdMULTIPLICATION SIGN BELOW",
  "SUPERSET WITH PLUS SIGN BELOWyVILLAINkRFACE INTEGRALmEReSHIcPENSION RAILWAYrWAN",
  "SWASH AMPERSAND ORNAMENTwIMMERfUNG DASHjYLOTI NAGRI LETTER AbBHOcOcCHOcOcDDHOcOcHOcOcEbGHOcO",
  "SYLOTI NAGRI LETTER HOcIbJHOcOcKHOcOcLOcMOcNOcObPHOcOcRObROdSOcTHOcObTHOcOdUiPOETRY MARK-1b2b3",
  "SYLOTI NAGRI POETRY MARK-4nSIGN ALTERNATE HASANTAqNUSVARAiDVISVARAiHASANTAmVOWEL SIGN AbEbIbOO",
  "SYLOTI NAGRI VOWEL SIGN UxMBOL FOR ACKNOWLEDGElBACKSPACEiELLeCANCELeRRIAGE RETURN",
  "SYMBOL FOR DATA LINK ESCAPEpELETEa FORM TWOnVICE CONTROL FOUReONEdTHREEeWOsEND OF MEDIUMgTEXT",
  "SYMBOL FOR END OF TRANSMISSIONa BLOCKxQUIRYgSCAPEgFILE SEPARATORnORM FEEDjGROUP SEPARATOR",
  "SYMBOL FOR HORIZONTAL TABULATIONvLINE FEEDjMARKS CHAPTERnNEGATIVE ACKNOWLEDGEsWLINEgULL",
  "SYMBOL FOR RECORD SEPARATORqSAMARITAN SOURCEpHIFT INcOUTiPACEeTART OF HEADINGhTEXTmUBSTITUTE",
  "SYMBOL FOR SUBSTITUTE FORM TWOsYNCHRONOUS IDLEqTYPE A ELECTRONICSsUNIT SEPARATOR",
  "SYMBOL FOR VERTICAL TABULATION",
  "SYMMETRYgNaAGOGUEgCHRONOUS IDLEoRIAC ABBREVIATION MARKrBARREKHhCOLON SKEWED LEFTeRIGHT",
  "SYRIAC CONTRACTIONlDOTTED ZLAMA ANGULARhHORIZONTALxEND OF PARAGRAPHpSASA ABOVEfBELOW",
  "SYRIAC FEMININE DOTmHARKLEAN ASTERISCUSkMETOBELUSjOBELUSoBASA ABOVEfBELOWg-ESASA DOTTED",
  "SYRIAC HORIZONTAL COLONqLETTER ALAPHfBETHeDALATHfOTLESS DALATH RISHtEbFINAL SEMKATHnGAMAL",
  "SYRIAC LETTER GAMAL GARSHUNIoHEaTHeKAPHeLAMADHgMALAYALAM BHAdJAcLLAbLAeNGAcNAbNAdYAdRAcSSAdTTA",
  "SYRIAC LETTER MIMdNUNdPEaRSIAN BHETHfDHALATHhGHAMALoQAPHeREVERSED PEkISHeSADHEeEMKATHgHIN",
  "SYRIAC LETTER SOGDIAN FEcKHAPHfZHAINmUPERSCRIPT ALAPHrTAWcETHa GARSHUNInWAWdYUDHa HEhZAIN",
  "SYRIAC MUSICfOBLIQUE LINE ABOVEfBELOWsPTHAHA ABOVEfBELOWfDOTTEDnQUSHSHAYAjRBASA ABOVEfBELOW",
  "SYRIAC RUKKAKHAhWAHAfSUBLINEAR COLONa SKEWED LEFTeRIGHTsFULL STOPrPRALINEAR COLONa SKEWED LEFT",
  "SYRIAC SUPRALINEAR FULL STOPvTHREE DOTS ABOVEfBELOWpWO VERTICAL DOTS ABOVEfBELOWxZQAPHA ABOVE",
  "SYRIAC ZQAPHA BELOWfDOTTEDqNGEhT-REXdSHIRTgABaLE TENNIS PADDLE AND BALL",
  "TACOcG AMPERSANDiPOSTROPHEjSTERISKiCIRCUMFLEX ACCENTqOLONdMMAbERCIAL ATnDIGIT EIGHTfFIVEdOUR",
  "TAG DIGIT NINEeONEdSEVENeIXdTHREEeWOdZEROjOLLAR SIGNlEQUALS SIGNkXCLAMATION MARKqFULL STOP",
  "TAG GRAVE ACCENTkEATER-THAN SIGNrHYPHEN-MINUSmLATIN CAPITAL LETTER AbBbCbDbEbFbGbHbIbJbKbLbMbN",
  "TAG LATIN CAPITAL LETTER ObPbQbRbSbTbUbVbWbXbYbZqSMALL LETTER AbBbCbDbEbFbGbHbIbJbKbLbMbNbObP",
  "TAG LATIN SMALL LETTER QbRbSbTbUbVbWbXbYbZtEFT CURLY BRACKETnPARENTHESISlSQUARE BRACKET",
  "TAG LESS-THAN SIGNnOW LINEiNUMBER SIGNlPERCENT SIGNlLUS SIGNjQUESTION MARKlOTATION MARK",
  "TAG REVERSE SOLIDUSoIGHT CURLY BRACKETnPARENTHESISlSQUARE BRACKETuSEMICOLONiOLIDUSgPACEfTILDE",
  "TAG VERTICAL LINEoALOG LETTER AaRCHAIC RAkBAcDAcGAcHAcIbKAcLAcMAcNAbGAdPAcRAcSAcTAcUbWAcYA",
  "TAGALOG SIGN PAMUDPODiVIRAMAlVOWEL SIGN IbUrBANWA LETTER AbBAcDAcGAcIbKAcLAcMAcNAbGAdPAcSAcTA",
  "TAGBANWA LETTER UbWAcYAjVOWEL SIGN IbUtI LE LETTER AaIbUEdEaEbHcFAcHAcIbKAbHAdLAcMAcNAbGAdOaO",
  "TAI LE LETTER PAbHAdQAcSAcTAbHAcONE-2b3b4b5b6fSAbHAeUaEcVAcXAcYA",
  "TAI THAM COMBINING CRYPTOGRAMMIC DOTzNSONANT SIGN BAcFINAL NGAjHIGH RATHA OR LOW PA",
  "TAI THAM CONSONANT SIGN LA TANG LAIkOW PAgMAbEDIAL LAcRAjSArHORA DIGIT EIGHTfFIVEdOUReNINEeONE",
  "TAI THAM HORA DIGIT SEVENeIXdTHREEeWOdZEROpLETTER AbBAcDAcEEcGREAT SAiHIGH CAbHAdFAcHAcKAbHA",
  "TAI THAM LETTER HIGH KXAdPAbHAdRATHAfSAbHAcSAdTAbHAdYAhIaIcLAaEcLAcOW CAbHAdFAcHAcKAbHAcXAdPA",
  "TAI THAM LETTER LOW PHAdRATHAfSAcTAbHAdYAfUEdMAcNAbGAcYAdOOcRAaNAcTAdUEdUaUcWAjSIGN CAANG",
  "TAI THAM SIGN DOKMAIgHANGdOYdKAANaKUUgEOWdHUEN TONE-3b4b5h-LUE KARANpMAI KANGa LAIiSAMdYAMOK",
  "TAI THAM SIGN RA HAAMgEVERSED ROTATED RANAvSAKOTdTKAANaKUUiWANfTONE-1b2gWIANGaWAAK",
  "TAI THAM THAM DIGIT EIGHTfFIVEdOUReNINEeONEdSEVENeIXdTHREEeWOdZEROpVOWEL SIGN AaAbEbIcEbIaI",
  "TAI THAM VOWEL SIGN MAI SAThOaA ABOVEfBELOWhObYcTALL AAgHAM AIhUaEbUaEtVIET LETTER HIGH BOcCHO",
  "TAI VIET LETTER HIGH COcDOcFOcGOcHOcKHHOcOcOcLOcMOcNGOcObYOdObPHOcOcROcSOcTHOcOcVOcYOhLOW BO",
  "TAI VIET LETTER LOW CHOcOcDOcFOcGOcHOcKHHOcOcOcLOcMOcNGOcObYOdObPHOcOcROcSOcTHOcOcVOcYO",
  "TAI VIET MAI KANGdHITiSYMBOL HO HOIgKOI KOIfNdNUENGfSAMkTONE MAI EKcNUENGfSONGeTHOmVOWEL AAbM",
  "TAI VIET VOWEL ANbUEcYcEbIaAcObUaAbEaAqKEOUT BOXiRI ABBREVIATION SIGNrDIGIT EIGHTfFIVEdOUR",
  "TAKRI DIGIT NINEeONEdSEVENeIXdTHREEeWOdZEROkLETTER AaAbIbRCHAIC KHAkUcBAbHAdCAbHAdDAbDAbHAdHA",
  "TAKRI LETTER EbGAbHAdHAcIaIcJAbHAdKAbHAdLAcMAcNAbGAcNAcYAdObPAbHAdRAbRAdSAbHAdTAbHAcTAbHAeUaU",
  "TAKRI LETTER VAcYAjSIGN ANUSVARAiNUKTAfVIRAMAeSARGAmVOWEL SIGN AAbIbUcEbIaIcObUaU",
  "TALLY MARK FIVEeONEmMALEdIL AND ODD SIGNlS ABOVE SIGNmU LENGTH MARKoCREDIT SIGNkURRENT SIGN",
  "TAMIL DAY SIGNhEBIT SIGNjIGIT EIGHTfFIVEdOUReNINEeONEdSEVENeIXdTHREEeWOdZERO",
  "TAMIL DRY CULTIVATION SIGNuFRACTION DOWNSCALING FACTOR KIIZHyONE EIGHTHbIETHjFIFTHeORTIETH",
  "TAMIL FRACTION ONE HALF-1b2gONE-HUNDRED-AND-SIXTIETHyQUARTERhSIXTEENTH-1b2hY-FOURTHmTENTH",
  "TAMIL FRACTION ONE THIRTY-SECONDlREE-HUNDRED-AND-TWENTIETH",
  "TAMIL FRACTION ONE TWENTIETHnTHREE EIGHTIETHSkQUARTERSiSIXTEENTHSgY-FOURTHSnTWENTIETHS",
  "TAMIL IN POSSESSION SIGNsLAND SIGNiETTER AaAbIbUcCAcEaEcHAcIaIcJAcKAcLAbLAbLAeMAcNAbGAcNAbNA",
  "TAMIL LETTER NYAdOaOcPAcRAbRAdSAbHAcSAdTAbTAdUaUcVAcYAjMONTH SIGNkNUMBER ONE HUNDREDhTHOUSAND",
  "TAMIL NUMBER SIGNeTENkOMcPUNCTUATION END OF TEXTxRUPEE SIGNkSALT PAN SIGNmIGN AAZHAAKKU",
  "TAMIL SIGN ANUSVARAiCEVITUgKAACUeURUNIeZHIfMUKKURUNIhTHALIYAhUVUZHAKKUlNELdPAARAMeNAMdTHAKKU",
  "TAMIL SIGN PONdUZHAKKUhVAKAIYARAAiRAAKANhELIdIRAMAeSARGAlPENT SIGNjTARTING FROM SIGN",
  "TAMIL TOTAL SIGNjRADITIONAL CREDIT SIGNlNUMBER SIGNxVOWEL SIGN AAbIbUcEaEcIaIcOaOcUaU",
  "TAMIL WET CULTIVATION SIGNuYEAR SIGNnNABATA TREEkGERINEfSA DIGIT EIGHTfFIVEdOUReNINEeONEdSEVEN",
  "TANGSA DIGIT SIXdTHREEeWOdZEROkLETTER ACbQbWCbQbXbZcXbZcBAcCAbHAdDAbHAdECbQbXbZcFAbINAL NGiGA",
  "TANGSA LETTER GHAdHAbTAbTAeICbQbXbZcKAbHAdLAbONG UEXiMAbCbQbXbZcNAbGAcHAcYAdOCbQbXbZcPAbHAdRA",
  "TANGSA LETTER SAbHAbORT AWXdUEZjTAbHAcSAdUCbECbQbXbZcICbQbUCbQbXbZcXbZcQbXbZcVCbQbXbZcWAcXAcYA",
  "TANGSA LETTER ZAmUT COMPONENT-001b2b3b4b5b6b7b8b9c10b1b2b3b4b5b6b7b8b9c20b1b2b3b4b5b6b7b8b9c30",
  "TANGUT COMPONENT-031b2b3b4b5b6b7b8b9c40b1b2b3b4b5b6b7b8b9c50b1b2b3b4b5b6b7b8b9c60b1b2b3b4b5b6",
  "TANGUT COMPONENT-067b8b9c70b1b2b3b4b5b6b7b8b9c80b1b2b3b4b5b6b7b8b9c90b1b2b3b4b5b6b7b8b9d100b1",
  "TANGUT COMPONENT-102b3b4b5b6b7b8b9c10b1b2b3b4b5b6b7b8b9c20b1b2b3b4b5b6b7b8b9c30b1b2b3b4b5b6b7",
  "TANGUT COMPONENT-138b9c40b1b2b3b4b5b6b7b8b9c50b1b2b3b4b5b6b7b8b9c60b1b2b3b4b5b6b7b8b9c70b1b2b3",
  "TANGUT COMPONENT-174b5b6b7b8b9c80b1b2b3b4b5b6b7b8b9c90b1b2b3b4b5b6b7b8b9d200b1b2b3b4b5b6b7b8b9",
  "TANGUT COMPONENT-210b1b2b3b4b5b6b7b8b9c20b1b2b3b4b5b6b7b8b9c30b1b2b3b4b5b6b7b8b9c40b1b2b3b4b5",
  "TANGUT COMPONENT-246b7b8b9c50b1b2b3b4b5b6b7b8b9c60b1b2b3b4b5b6b7b8b9c70b1b2b3b4b5b6b7b8b9c80b1",
  "TANGUT COMPONENT-282b3b4b5b6b7b8b9c90b1b2b3b4b5b6b7b8b9d300b1b2b3b4b5b6b7b8b9c10b1b2b3b4b5b6b7",
  "TANGUT COMPONENT-318b9c20b1b2b3b4b5b6b7b8b9c30b1b2b3b4b5b6b7b8b9c40b1b2b3b4b5b6b7b8b9c50b1b2b3",
  "TANGUT COMPONENT-354b5b6b7b8b9c60b1b2b3b4b5b6b7b8b9c70b1b2b3b4b5b6b7b8b9c80b1b2b3b4b5b6b7b8b9",
  "TANGUT COMPONENT-390b1b2b3b4b5b6b7b8b9d400b1b2b3b4b5b6b7b8b9c10b1b2b3b4b5b6b7b8b9c20b1b2b3b4b5",
  "TANGUT COMPONENT-426b7b8b9c30b1b2b3b4b5b6b7b8b9c40b1b2b3b4b5b6b7b8b9c50b1b2b3b4b5b6b7b8b9c60b1",
  "TANGUT COMPONENT-462b3b4b5b6b7b8b9c70b1b2b3b4b5b6b7b8b9c80b1b2b3b4b5b6b7b8b9c90b1b2b3b4b5b6b7",
  "TANGUT COMPONENT-498b9d500b1b2b3b4b5b6b7b8b9c10b1b2b3b4b5b6b7b8b9c20b1b2b3b4b5b6b7b8b9c30b1b2",
  "TANGUT COMPONENT-533b4b5b6b7b8b9c40b1b2b3b4b5b6b7b8b9c50b1b2b3b4b5b6b7b8b9c60b1b2b3b4b5b6b7b8",
  "TANGUT COMPONENT-569c70b1b2b3b4b5b6b7b8b9c80b1b2b3b4b5b6b7b8b9c90b1b2b3b4b5b6b7b8b9d600b1b2b3",
  "TANGUT COMPONENT-604b5b6b7b8b9c10b1b2b3b4b5b6b7b8b9c20b1b2b3b4b5b6b7b8b9c30b1b2b3b4b5b6b7b8b9",
  "TANGUT COMPONENT-640b1b2b3b4b5b6b7b8b9c50b1b2b3b4b5b6b7b8b9c60b1b2b3b4b5b6b7b8b9c70b1b2b3b4b5",
  "TANGUT COMPONENT-676b7b8b9c80b1b2b3b4b5b6b7b8b9c90b1b2b3b4b5b6b7b8b9d700b1b2b3b4b5b6b7b8b9c10",
  "TANGUT COMPONENT-711b2b3b4b5b6b7b8b9c20b1b2b3b4b5b6b7b8b9c30b1b2b3b4b5b6b7b8b9c40b1b2b3b4b5b6",
  "TANGUT COMPONENT-747b8b9c50b1b2b3b4b5b6b7b8b9c60b1b2b3b4b5b6b7b8nITERATION MARKtPE CARTRIDGE",
  "TAPE DRIVEiURUSeXIdEACUP WITHOUT HANDLEsPOTdR-OFF CALENDARnDROP-BARBED RIGHTWARDS ARROW",
  "TEARDROP-SPOKED ASTERISKwDDY BEARiLEPHONE LOCATION SIGNnON TOP OF MODEMpRECEIVERa WITH PAGE",
  "TELEPHONE RECORDERiSIGNkSCOPEfVISIONhUGU AI LENGTH MARKoDIGIT EIGHTfFIVEdOUReNINEeONEdSEVENeIX",
  "TELUGU DIGIT THREEeWOdZEROkFRACTION DIGIT ONE FOR EVEN POWERS OF FOURtODD POWERS OF FOUR",
  "TELUGU FRACTION DIGIT THREE FOR EVEN POWERS OF FOURtODD POWERS OF FOUR",
  "TELUGU FRACTION DIGIT TWO FOR EVEN POWERS OF FOURtODD POWERS OF FOUR",
  "TELUGU FRACTION DIGIT ZERO FOR ODD POWERS OF FOUR",
  "TELUGU LENGTH MARKjTTER AaAbIbUcBAbHAdCAbHAdDAbDAbHAdHAcZAdEaEcGAbHAdHAcIaIcJAbHAdKAbHAdLAbLA",
  "TELUGU LETTER LLLAeMAcNAaKAARA POLLUmGAcNAcYAdOaOcPAbHAdRAbRAbRAeSAbHAcSAdTAbHAcSAcTAbHAeUaU",
  "TELUGU LETTER VAbOCALIC LaLcRaRkYAjSIGN ANUSVARAhVAGRAHAiCANDRABINDUkOMBINING ANUSVARA ABOVE",
  "TELUGU SIGN COMBINING CANDRABINDU ABOVE",
  "TELUGU SIGN NUKTAfSIDDHAMhTUUMUfVIRAMAeSARGAmVOWEL SIGN AAbIbUcEaEcIaIcOaOcUaUcVOCALIC LaLcRaR",
  "TENGE SIGNhNIS RACQUET AND BALLuTcST TUBEhTRAGRAM FOR ACCUMULATIONlDVANCEgGGRAVATIONkSCENT",
  "TETRAGRAM FOR BARRIERgOLD RESOLUTIONoRANCHING OUTnCENTREfHANGEfLOSED MOUTHhNESSfUREgOMPLETION",
  "TETRAGRAM FOR COMPLIANCEiNSTANCYgTACTdENTIONgRARIETYlDARKENINGiECISIVENESS",
  "TETRAGRAM FOR DEFECTIVENESS OR DISTORTIONzPARTUREiIFFICULTIESkMINISHMENTjMINGfVERGENCEjOUBT",
  "TETRAGRAM FOR DUTIESgEASEdMBELLISHMENTmNCOUNTERSiDEAVOURhLARGEMENTkTERNITYhXHAUSTIONkFAILURE",
  "TETRAGRAM FOR FLIGHTfOLLOWINGhSTERINGiULL CIRCLEhNESSiGATHERINGa INlOING TO MEETmREATNESS",
  "TETRAGRAM FOR GUARDEDNESSlHARDNESShOLDING BACKmINCREASEgNERfJOYdKEEPING SMALLmINSHIPhLABOURING",
  "TETRAGRAM FOR LAW OR MODELlEGIONgMASSINGgEASUREgIREDfON THE VERGElPPOSITIONkPACKINGfTTERN",
  "TETRAGRAM FOR PENETRATIONkURITYgREACHdLEASEfSIDENCEfSTANCEhPONSEhITUALgSEVERANCEiINKING",
  "TETRAGRAM FOR STOPPAGEfVEdRENGTHiUNITYfVASTNESS OR WASTINGtWAITINGfTCHfYOUTHFULNESS",
  "THAANA AABAAFILIiBAFILIhEBEFILIgEBEEFILIiYBEYFILIjIBIFILIhLETTER AINUdLIFUfBAAdCHAVIYANI",
  "THAANA LETTER DAADHUeVIYANIhHAALUgFAAFUfGAAFUeHAINUfNAVIYANIjHAAcHAAeJAVIYANIiKAAFUeHAAeLAAMU",
  "THAANA LETTER LHAVIYANIjMEEMUfNAAcOONUfPAVIYANIiQAAFUfRAAdSAADHUfEENUeHAVIYANIhEENUgTAVIYANI",
  "THAANA LETTER THAAaLUfObTAAeVAAVUfWAAVUfYAAdZAAbVIYANIhOjOABOAFILIiBOFILIgOBOOFILIjSUKUN",
  "THAANA UBUFILIlI CHARACTER ANGKHANKHUkBO BAIMAIjCHO CHANaGdINGdOEiDO CHADAfDEKgFO FAaNeNGMAN",
  "THAI CHARACTER HO HIPdNOKHUKjKHO KHAIcONcUATdWAIfRAKHANGiMUTfO KAIgLAKKHANGYAOkO CHULAfLINGgU",
  "THAI CHARACTER MAI CHATTAWAiEKcHAN-AKATiTHOcRIeTAIKHUgYAMOKhO MAfNGO NGUgIKHAHIThO NENcUfO ANG",
  "THAI CHARACTER PAIYANNOIiHINTHUfO PHANcUNGfSAMPHAOkO PLAgRO RUAfUcSARA AaAbEbI MAIMALAIeUANjM",
  "THAI CHARACTER SARA EbIaIcObUaEaEcUgO RUSIeSALAdObUAgTHANTHAKHATjO NANGMONTHOkPHUTHAOhTHAHANdN",
  "THAI CHARACTER THO THONGdUNGiO PATAKfTAOgWO WAENhYAMAKKANhO YAKcINGqURRENCY SYMBOL BAHT",
  "THAI DIGIT EIGHTfFIVEdOUReNINEeONEdSEVENeIXdTHREEeWOdZEROnERE DOES NOT EXISToEXISTShFORE",
  "THERMODYNAMIChMETERjIN GREEK CROSSlSALTIREgPACEgKING FACEkRD PLACE MEDALpONG SANDAL",
  "THOUGHT BALLOONnREE BUTTON MOUSEmCONSECUTIVE EQUALS SIGNSyDIMENSIONAL ANGLEqOT PUNCTUATION",
  "THREE LEFTWARDS ARROWSpINES CONVERGING LEFTeRIGHTwNETWORKED COMPUTERStPOINTED BLACK STAR",
  "THREE RAYS ABOVEfBELOWfLEFTeRIGHTjIGHTWARDS ARROWSrSPEECH BUBBLES",
  "THREE-D BOTTOM-LIGHTED RIGHTWARDS ARROWHEAD",
  "THREE-D LEFT-LIGHTED DOWNWARDS EQUILATERAL ARROWHEAD",
  "THREE-D RIGHT-LIGHTED UPWARDS EQUILATERAL ARROWHEAD",
  "THREE-D TOP-LIGHTED LEFTWARDS EQUILATERAL ARROWHEAD",
  "THREE-D TOP-LIGHTED RIGHTWARDS ARROWHEADjEQUILATERAL ARROWHEAD",
  "THREE-EM DASHhPER-EM SPACEqUMBS DOWN SIGNjUP SIGNlNDER CLOUD AND RAINpSTORM",
  "TIBETAN ASTROLOGICAL SIGN -KHYUD PAjSDONG TSHUGSlGRA GCAN -CHAR RTAGS",
  "TIBETAN CANTILLATION SIGN CANG TE-UjHEAVY BEATkLIGHT BEATkSBUB -CHAL",
  "TIBETAN DIGIT EIGHTfFIVEdOUReHALF EIGHTfFIVEdOUReNINEeONEdSEVENeIXdTHREEeWOdZEROjNINEeONE",
  "TIBETAN DIGIT SEVENeIXdTHREEeWOdZEROkKU RU KHAa BZHI MIG CANwLETTER -AcAbBAbHAdCAbHAdDAbDAbHA",
  "TIBETAN LETTER DHAcZAbHAeFIXED-FORM RAnGAbHAdHAcJAcKAbHAcKAcSSAeLAcMAcNAbGAcNAcYAdPAbHAdRAbRA",
  "TIBETAN LETTER SAbHAcSAdTAbHAcSAbHAdTAbHAeWAcYAcZAbHAjOGOTYPE SIGN CHAD RTAGSkLHAG RTAGS",
  "TIBETAN MARK ANG KHANG GYAScONoBKA- SHOG GI MGO RGYANmYIG MGOqSDUS RTAGSjKA- SHOG GI MGO RGYAN",
  "TIBETAN MARK BSKUR YIG MGOnCARET -DZUD RTAGS BZHI MIG CANmME LONG CANxYIG MGO PHUR SHAD MA",
  "TIBETAN MARK CHE MGOgLOSING BRDA RNYING YIG MGO SGAB MA",
  "TIBETAN MARK CLOSING YIG MGO SGAB MAxDELIMITER TSHEG BSTARvGTER TSHEG",
  "TIBETAN MARK GTER YIG MGO -UM GTER TSHEG MAnRNAM BCAD MAqTRUNCATED AxUG RTAGS GYAScONoHALANTA",
  "TIBETAN MARK INITIAL BRDA RNYING YIG MGO MDUN MA",
  "TIBETAN MARK INITIAL YIG MGO MDUN MAvTERSYLLABIC TSHEGtLEADING MCHAN RTAGS",
  "TIBETAN MARK MNYAM YIG GI MGO RGYANwNGAS BZUNG NYI ZLAhSGOR RTAGSuYIS SHADeTSHEGa SHADpPALUTA",
  "TIBETAN MARK RGYA GRAM SHADnIN CHEN SPUNGS SHADuSBRUL SHADjHADeTRAILING MCHAN RTAGStSA -PHRU",
  "TIBETAN MARK TSHEG SHADkYIG MGO TSHEG SHAD MA",
  "TIBETAN SIGN GRU CAN RGYINGSlMED RGYINGSpINVERTED MCHU CANrLCE TSA CANjI RTAGSjMAR TSHES",
  "TIBETAN SIGN MCHU CANiNYI ZLA NAA DAoRDEL DKAR GCIGdNYISeSUMeRDEL NAGnNAG GCIGdNYISeSUM",
  "TIBETAN SIGN RDEL NAG RDEL DKARrJES SU NGA ROnNAM BCADjSNA LDANiYANG RTAGSiR TSHES",
  "TIBETAN SUBJOINED LETTER -AcAbBAbHAdCAbHAdDAbDAbHAdHAcZAbHAeFIXED-FORM RAcWAcYAnGAbHAdHAcJAcKA",
  "TIBETAN SUBJOINED LETTER KHAcSSAeLAcMAcNAbGAcNAcYAdPAbHAdRAcSAbHAcSAdTAbHAcSAbHAdTAbHAeWAcYA",
  "TIBETAN SUBJOINED LETTER ZAbHAkSIGN INVERTED MCHU CANrLCE TSA CANlMCHU CANwYLLABLE OM",
  "TIBETAN SYMBOL DRIL BUhNOR BUa BZHI -KHYILlGSUM -KHYILlNYIS -KHYILsPADMA GDANjHUR PAhRDO RJE",
  "TIBETAN SYMBOL RDO RJE RGYA GRAMyVOWEL SIGN AAcEaEcIaIcOaOcREVERSED IaIlUaUcVOCALIC LaLcRaR",
  "TICKETeE OVER INFINITYpFINAGH CONSONANT JOINERqLETTER AHAGGAR YAZHlYER YAGHjBERBER ACADEMY YAH",
  "TIFINAGH LETTER BERBER ACADEMY YAJsTAWELLEMET YAZnUAREG YAGHbNcHbKaHcNGcQbZHlYAaAbBaHcCHcDaDaH",
  "TIFINAGH LETTER YADHcFbGaHaHdHaHcJbKaHaHdLbMbNbPbQbRaRcSaHbScTaHbTcVbWbYbZaHbZdEaYcIbObU",
  "TIFINAGH MODIFIER LETTER LABIALIZATION MARK",
  "TIFINAGH SEPARATOR MARKvGERa FACEhHT TRIFOLIATE SNOWFLAKEyLDEa OPERATORa ABOVE LEFTWARDS ARROW",
  "TILDE OPERATOR ABOVE RIGHTWARDS ARROWwWITH DOT ABOVEjRISING DOTSzWITH DOT ABOVEfBELOW",
  "TILDE WITH RING ABOVEtMER CLOCKhS WITH LEFT HALF BLACKpRIGHT HALF BLACKzNY",
  "TINY TWO DOTS OVER ONE DOT PUNCTUATION",
  "TIRED FACEhHUTA ABBREVIATION SIGNqNJIeDIGIT EIGHTfFIVEdOUReNINEeONEdSEVENeIXdTHREEeWOdZERO",
  "TIRHUTA GVANGfLETTER AaAbIbUcBAbHAdCAbHAdDAbDAbHAdHAdEbGAbHAdHAcIaIcJAbHAdKAbHAdLAcMAcNAbGAcNA",
  "TIRHUTA LETTER NYAdObPAbHAdRAcSAbHAcSAdTAbHAcTAbHAeUaUcVAbOCALIC LaLcRaRkYAjOMcSIGN ANUSVARA",
  "TIRHUTA SIGN AVAGRAHAiCANDRABINDUlNUKTAfVIRAMAeSARGAmVOWEL SIGN AAbIbUcEbIaIcObSHORT EbOhUaU",
  "TIRHUTA VOWEL SIGN VOCALIC LaLcRaR",
  "TIRONIAN SIGN CAPITAL ETkETpOILETeKYO TOWERjMATOeNGUEeOLBOXeTHaBRUSHiP ARC ANTICLOCKWISE ARROW",
  "TOP ARC ANTICLOCKWISE ARROW WITH PLUS",
  "TOP ARC CLOCKWISE ARROW WITH MINUS",
  "TOP CURLY BRACKETnHALF BLACK CIRCLEmINTEGRALiLEFT PARENTHESISqRIGHT PARENTHESISrSECTION SIGNpT",
  "TOP LEFT CORNERfROPeHALF BRACKETrPARENTHESISlRIGHT CORNERfROPeHALF BRACKETsSQUARE BRACKET",
  "TOP TORTOISE SHELL BRACKETwWITH UPWARDS ARROW ABOVE",
  "TORTOISE SHELL BRACKETED CJK UNIFIED IDEOGRAPH-4E09c8Ce52DDdB89e6253d557d72Ce70B9d6D7",
  "TORTOISE SHELL BRACKETED LATIN CAPITAL LETTER S",
  "TOTAL RUNOUTjO LETTER AaEcBAbREATHY AEcEaOcIaUkCHAdDAcEaOcGAcHAcIaUcJAcKAcLAcMAcNAbGAdObPAcRA",
  "TOTO LETTER SAcTAcUbWAcYAjSIGN RISING TONEuRACKBALLfTOReDE MARK SIGNmINcMa CARfNSPLUTO",
  "TRANSVERSAL INTERSECTIONwIANGLE WITH DOT ABOVEjROUNDED CORNERSpSERIFS AT BOTTOMqUNDERBAR",
  "TRIANGLE-HEADED RIGHTWARDS ARROW",
  "TRIANGULAR BULLETgFLAG ON POSTmRULERnCOLONfDENT EMBLEMlGRAM FOR EARTHfFIREeHEAVENgLAKE",
  "TRIGRAM FOR MOUNTAINiTHUNDERhWATEReINDnPLE COLON OPERATORoDAGGER",
  "TRIPLE HORIZONTAL BAR WITH DOUBLE VERTICAL STROKEwTRIPLE VERTICAL STROKE",
  "TRIPLE INTEGRALiNESTED GREATER-THANmLESS-THANqPLUSdRIMEfSOLIDUS BINARY RELATIONxTILDE",
  "TRIPLE VERTICAL BAR BINARY RELATIONpDELIMITERjRIGHT TURNSTILEpWITH HORIZONTAL STROKE",
  "TROLLaEYBUShPHYcICAL DRINKfFISHlUEa LIGHT MOON ARTArMPETgUGRIK SIGNjLIPdMBLER GLASSlRKEY",
  "TURKISH LIRA SIGNoNED AMPERSANDiNGLEfBLACK PENTAGONiSHOGI PIECErCAPITAL FiOMMAfDAGGER",
  "TURNED DIGIT THREEeWOjGREEK SMALL LETTER IOTAxNORTH EAST POINTING LEAFsWEST POINTING LEAF",
  "TURNED NOT SIGNiOK HAND SIGNmSANS-SERIF CAPITAL GbLbYtEMICOLONiMALL FgOUTH EAST POINTING LEAF",
  "TURNED SOUTH WEST POINTING LEAFyWHITE SHOGI PIECEvTLEfWELVE POINTED BLACK STAR",
  "TWISTED RIGHTWARDS ARROWSxO ASTERISKS ALIGNED VERTICALLY",
  "TWO BUTTON MOUSEmCONSECUTIVE EQUALS SIGNSyDOT LEADERgPUNCTUATIONmS OVER ONE DOT PUNCTUATION",
  "TWO HEARTSgINTERSECTING LOGICAL ANDdORxJOINED SQUARESoLOGICAL AND OPERATORmOR OPERATOR",
  "TWO MEN HOLDING HANDSrSPEECH BUBBLESoWOMEN HOLDING HANDSu-EM DASHlUGARITIC LETTER AINcLPAeBETA",
  "UGARITIC LETTER DELTAeHALeGAMLAeHAINfHOaTAeIbKAFcHAdLAMDAfMEMdNUNdPUcQOPAeRASHAfSADEcMKAeHIN",
  "UGARITIC LETTER SSUdTETcHANNAfOcUbWOcYODdZETAdUjWORD DIVIDERuMBRELLAa ON GROUND",
  "UMBRELLA WITH RAIN DROPSxNAMUSED FACElCERTAINTY SIGNoDERTIEfO SYMBOLjICORN FACEjON",
  "UNION ABOVE BAR ABOVE INTERSECTIONwINTERSECTIONsBESIDE AND JOINED WITH UNION",
  "UNION WITH LOGICAL ORkMINUS SIGNkOVERBARpT SEPARATORkED SYMBOLkVERSAL RECYCLING SYMBOL",
  "UNMARRIED PARTNERSHIP SYMBOL",
  "UP ARROW THROUGH CIRCLEpHEADa BETWEEN TWO HORIZONTAL BARS",
  "UP ARROWHEAD IN A RECTANGLE BOX",
  "UP BARB LEFT DOWN BARB LEFT HARPOONmRIGHT HARPOON",
  "UP BARB RIGHT DOWN BARB LEFT HARPOONmRIGHT HARPOON",
  "UP DOWN ARROWa WITH BASEpBLACK ARROWlDOUBLE ARROWmSANS-SERIF ARROWqTRIANGLE-HEADED ARROW",
  "UP DOWN WHITE ARROWqFISH TAILjRIGHT DIAGONAL ELLIPSISxTACKa WITH CIRCLE ABOVE",
  "UP-POINTING AIRPLANEiMILITARY AIRPLANErRED TRIANGLEmSMALL AIRPLANEiRED TRIANGLE",
  "UP-POINTING TRIANGLE WITH LEFT HALF BLACKpRIGHT HALF BLACK",
  "UPPER AND LEFT AND LOWER TRIANGULAR THREE QUARTERS BLOCK",
  "UPPER AND LOWER ONE EIGHTH BLOCKqTRIANGULAR HALF BLOCK",
  "UPPER AND RIGHT AND LOWER TRIANGULAR THREE QUARTERS BLOCK",
  "UPPER BLADE SCISSORSoFIVE EIGHTHS BLOCKsHALF BLOCKa AND LOWER HALF INVERSE MEDIUM SHADE",
  "UPPER HALF CIRCLEgINVERSE MEDIUM SHADE AND LOWER HALF BLOCK",
  "UPPER HALF INVERSE WHITE CIRCLEuMEDIUM SHADE",
  "UPPER LEFT BLOCK DIAGONAL LOWER CENTRE TO LOWER MIDDLE RIGHTsUPPER MIDDLE RIGHTmRIGHT",
  "UPPER LEFT BLOCK DIAGONAL LOWER LEFT TO LOWER MIDDLE RIGHTsUPPER CENTREgMIDDLE RIGHT",
  "UPPER LEFT BLOCK DIAGONAL LOWER MIDDLE LEFT TO UPPER CENTREgMIDDLE RIGHTmRIGHT",
  "UPPER LEFT BLOCK DIAGONAL UPPER MIDDLE LEFT TO UPPER CENTREgRIGHT",
  "UPPER LEFT CORNER WITH DOTpOR LOWER RIGHT CURLY BRACKET SECTION",
  "UPPER LEFT QUADRANT CIRCULAR ARCvTO LOWER RIGHT FILLsRIANGLEcULAR MEDIUM SHADE",
  "UPPER ONE EIGHTH BLOCKmQUARTER BLOCKrRIGHT BLOCK DIAGONAL LOWER MIDDLE LEFT TO LOWER CENTRE",
  "UPPER RIGHT BLOCK DIAGONAL LOWER MIDDLE LEFT TO LOWER RIGHT",
  "UPPER RIGHT BLOCK DIAGONAL UPPER CENTRE TO LOWER MIDDLE RIGHTmRIGHTlUPPER MIDDLE RIGHT",
  "UPPER RIGHT BLOCK DIAGONAL UPPER LEFT TO LOWER CENTREgMIDDLE RIGHTsUPPER MIDDLE RIGHT",
  "UPPER RIGHT BLOCK DIAGONAL UPPER MIDDLE LEFT TO LOWER CENTREgMIDDLE RIGHTmRIGHT",
  "UPPER RIGHT DROP-SHADOWED WHITE SQUARE",
  "UPPER RIGHT OR LOWER LEFT CURLY BRACKET SECTION",
  "UPPER RIGHT PENCILgQUADRANT CIRCULAR ARCvSHADOWED WHITE CIRCLEgSQUAREvTO LOWER LEFT FILL",
  "UPPER RIGHT TRIANGLEcULAR MEDIUM SHADE",
  "UPPER SEVEN EIGHTHS BLOCKtTHREE EIGHTHS BLOCKnQUARTERS BLOCKtRIANGULAR ONE QUARTER BLOCK",
  "UPSIDE-DOWN FACEoWARDS ANCORAfRROWa AND RIGHT ONE EIGHTH BLOCK",
  "UPWARDS ARROW FROM BARiLEFTWARDS OF DOWNWARDS ARROW",
  "UPWARDS ARROW TO BARgWITH DOUBLE STROKEnEQUILATERAL ARROWHEADvHORIZONTAL STROKE",
  "UPWARDS ARROW WITH LARGE TRIANGLE ARROWHEADyMEDIUM TRIANGLE ARROWHEADzNOTCHED TAIL",
  "UPWARDS ARROW WITH SMALL EQUILATERAL ARROWHEADvTRIANGLE ARROWHEADyTIP LEFTWARDSjRIGHTWARDS",
  "UPWARDS BLACK ARROWfCIRCLED WHITE ARROWzCOMPRESSED ARROWqDASHED ARROWlOUBLE ARROW",
  "UPWARDS FINGER-POST ARROWrHARPOON WITH BARB LEFT BESIDE DOWNWARDS HARPOON WITH BARB RIGHT",
  "UPWARDS HARPOON WITH BARB LEFT BESIDE UPWARDS HARPOON WITH BARB RIGHT",
  "UPWARDS HARPOON WITH BARB LEFT FROM BARiTO BARhWARDSjRIGHT FROM BARiTO BARhWARDS",
  "UPWARDS HEAVY ARROWfCOMPRESSED ARROWwPAIRED ARROWSnQUADRUPLE ARROWpROCKETgSANS-SERIF ARROW",
  "UPWARDS SQUARED ARROWnTRIANGLE ARROWHEADk-HEADED ARROW",
  "UPWARDS TRIANGLE-HEADED ARROW LEFTWARDS OF DOWNWARDS TRIANGLE-HEADED ARROW",
  "UPWARDS TRIANGLE-HEADED ARROW TO BARgWITH BOLD SHAFTkDOUBLE HORIZONTAL STROKEyHEAVY SHAFT",
  "UPWARDS TRIANGLE-HEADED ARROW WITH LONG TIP LEFTWARDSjRIGHTWARDStMEDIUM SHAFTmNARROW SHAFT",
  "UPWARDS TRIANGLE-HEADED ARROW WITH VERY HEAVY SHAFT",
  "UPWARDS TRIANGLE-HEADED DASHED ARROWmPAIRED ARROWS",
  "UPWARDS TRIPLE ARROWlWO HEADED ARROWn-HEADED ARROW FROM SMALL CIRCLErWITH TRIANGLE ARROWHEADS",
  "UPWARDS WHITE ARROWa FROM BARa WITH HORIZONTAL BAR",
  "UPWARDS WHITE ARROW ON PEDESTALa WITH HORIZONTAL BARoVERTICAL BAR",
  "UPWARDS WHITE ARROW WITHIN TRIANGLE ARROWHEAD",
  "UPWARDS WHITE DOUBLE ARROWa ON PEDESTAL",
  "URANUSfScVAI COMMAfDIGIT EIGHTfFIVEdOUReNINEeONEdSEVENeIXdTHREEeWOdZEROkFULL STOP",
  "VAI QUESTION MARKnSYLLABLE AaNcBAbEaEcHAbEaEcIbOaOcUcIbOaOcUcCAbEaEcIbOaOcUcDAbEaEcHAbEaEcHAbE",
  "VAI SYLLABLE DHHEEcIbOaOcUcIbOaOcUcIbOaOcUcEaEaNcNcFAbEaEcIbOaOcUcGAbBAbEaEbNcIbOaNbOcUcEaEbN",
  "VAI SYLLABLE GIbOaOcUcHAaNcEaEbNcIaNcOaNbOcUaNdIaNcJAbEaEcIbOaOcUcKAaNcEaEcIbOaOcPAaNcEaEbNcI",
  "VAI SYLLABLE KPOaOcUcUcLAbEaEbNGTHENERjIbOaOcUcMAbBAbEaEcIbOaOcUcEaEcGBAbEaEcIbOaOcUdIbOaOcU",
  "VAI SYLLABLE NAbDAbEaEcIbOaLE DOcFAcKAcMAcSOOgOcUcEaEcGaANcENcGAbEaEbNcIbOaOcUcONdIbJAbEaEcIbO",
  "VAI SYLLABLE NJOOcUcOaOcUbYAbEaEcIbOaOcUdOaNbOaNdPAbEaEcIbOaOcUcRAbEaEcIbOaOcUcSAbEaEcHAbEaEcI",
  "VAI SYLLABLE SHOaOcUcIbOaOcUcTAbEaEcHAbEaEcIbOaOcUcIbOaOcUcUaNcVAbEaEcIbOaOcUcWAaNcEaEaNcNcIaN",
  "VAI SYLLABLE WOaNbOaNdUaNdYAbEaEcIbOaOcUcZAbEaEcHAbEaEcIbOaOcUcIbOaOcUjMBOL BANGeDANGdO-OcONG",
  "VAI SYMBOL FAAcEENGfJONGeKEENGeUNGeNIIdTAAcINGdONGnMPIREfRIATION SELECTOR-1a0a0b1b2b3b4b5b6b7",
  "VARIATION SELECTOR-108b9c1a0b1b2b3b4b5b6b7b8b9c2a0b1b2b3b4b5b6b7b8b9c3a0b1b2b3b4b5b6b7b8b9c4a0",
  "VARIATION SELECTOR-141b2b3b4b5b6b7b8b9c5a0b1b2b3b4b5b6b7b8b9c6a0b1b2b3b4b5b6b7b8b9c7a0b1b2b3b4",
  "VARIATION SELECTOR-175b6b7b8b9c8a0b1b2b3b4b5b6b7b8b9c9a0b1b2b3b4b5b6b7b8b9d2a0a0b1b2b3b4b5b6b7",
  "VARIATION SELECTOR-208b9c1a0b1b2b3b4b5b6b7b8b9c2a0b1b2b3b4b5b6b7b8b9c3a0b1b2b3b4b5b6b7b8b9c4a0",
  "VARIATION SELECTOR-241b2b3b4b5b6b7b8b9c5a0b1b2b3b4b5b6c6b7b8b9c3a0b1b2b3b4b5b6b7b8b9c4a0b1b2b3",
  "VARIATION SELECTOR-44b5b6b7b8b9c5a0b1b2b3b4b5b6b7b8b9c6a0b1b2b3b4b5b6b7b8b9c7a0b1b2b3b4b5b6b7",
  "VARIATION SELECTOR-78b9c8a0b1b2b3b4b5b6b7b8b9c9a0b1b2b3b4b5b6b7b8b9uECTOR OR CROSS PRODUCT",
  "VEDIC SIGN ANUSVARA ANTARGOMUKHAmBAHIRGOMUKHAmUBHAYATO MUKHAoVAMAGOMUKHAa WITH TAIL",
  "VEDIC SIGN ARDHAVISARGAlTIKRAMAiDOUBLE ANUSVARA ANTARGOMUKHA",
  "VEDIC SIGN HEXIFORM LONG ANUSVARAwJIHVAMULIYAlLONG ANUSVARAnNIHSHVASA",
  "VEDIC SIGN REVERSED VISARGA ANUDATTAiUDATTAwOTATED ARDHAVISARGAtTHANG LONG ANUSVARAuTIRYAK",
  "VEDIC SIGN UPADHMANIYAlVISARGA ANUDATTAa WITH TAILsSVARITAhUDATTAa WITH TAIL",
  "VEDIC SIGN YAJURVEDIC MIDLINE SVARITA",
  "VEDIC TONE ATHARVAVEDIC INDEPENDENT SVARITA",
  "VEDIC TONE CANDRA ABOVEfBELOWmDOT BELOWhUBLE RING ABOVEkSVARITAoKARSHANAgTHAKA ANUDATTA",
  "VEDIC TONE PRENKHAhRIGVEDIC KASHMIRI INDEPENDENT SVARITA",
  "VEDIC TONE RING ABOVEkSHARAfTHREE DOTS BELOWpRIPLE SVARITAnWO DOTS BELOW",
  "VEDIC TONE YAJURVEDIC AGGRAVATED INDEPENDENT SVARITA",
  "VEDIC TONE YAJURVEDIC INDEPENDENT SVARITAtKATHAKA INDEPENDENT SVARITAa SCHROEDER",
  "VERSICLEfTICAL BAR BESIDE RIGHT TRIANGLEvDOUBLE LEFT TURNSTILEvTRIPLE RIGHT TURNSTILE",
  "VERTICAL BAR WITH HORIZONTAL STROKE",
  "VERTICAL ELLIPSISiFOUR DOTSjIDEOGRAPHIC ITERATION MARK",
  "VERTICAL KANA REPEAT MARKa LOWER HALFkUPPER HALFpWITH VOICED SOUND MARKa UPPER HALF",
  "VERTICAL LINEa EXTENSIONjWITH CIRCLE ABOVEfBELOWmMIDDLE DOTuMALE WITH STROKE SIGN",
  "VERTICAL ONE EIGHTH BLOCK-2b3b4b5b6b7sSIX DOTSiTAB KEYeULATIONa SETnILDEeRAFFIC LIGHT",
  "VERTICAL ZIGZAG LINErY BOLD GREEK CROSSqHEAVY EIGHT POINTED BLACK STARsSPOKED ASTERISK",
  "VERY HEAVY FIVE SPOKED ASTERISKuGREEK CROSSlREVERSE SOLIDUSpSALTIREgIX SPOKED ASTERISKsOLIDUS",
  "VERY HEAVY WHITE CIRCLEgSQUAREsMUCH GREATER-THANmLESS-THANrSTAeIBRATION MODEmCTORY HAND",
  "VIDEO CAMERAgGAMEfCASSETTElETNAMESE ALTERNATE READING MARK CAcNHAY",
  "VIEWDATA SQUAREnOLINeRGOdTHKUQI CAPITAL LETTER AbBBEcEcCEbHEdDEbHEdEaIcFEcGAcHAbHAdIaJEdJEcKA",
  "VITHKUQI CAPITAL LETTER LAbLAdMEcNEbJEdObPEcQAcREcSEbHEdTEbHEdUbVEcXEcYbZErSMALL LETTER AbBBE",
  "VITHKUQI SMALL LETTER BEcCEbHEdDEbHEdEaIcFEcGAcHAbHAdIaJEdJEcKAcLAbLAdMEcNEbJEdObPEcQAcREcSE",
  "VITHKUQI SMALL LETTER SHEdTEbHEdUbVEcXEcYbZExOIDED GREEK CROSSqLCANOeLEYBALLhUME INTEGRALoS1a0",
  "VS100b1b2b3b4b5b6b7b8b9c1a0b1b2b3b4b5b6b7b8b9c2a0b1b2b3b4b5b6b7b8b9c3a0b1b2b3b4b5b6b7b8b9c4a0",
  "VS141b2b3b4b5b6b7b8b9c5a0b1b2b3b4b5b6b7b8b9c6a0b1b2b3b4b5b6b7b8b9c7a0b1b2b3b4b5b6b7b8b9c8a0b1",
  "VS182b3b4b5b6b7b8b9c9a0b1b2b3b4b5b6b7b8b9d2a0a0b1b2b3b4b5b6b7b8b9c1a0b1b2b3b4b5b6b7b8b9c2a0b1",
  "VS222b3b4b5b6b7b8b9c3a0b1b2b3b4b5b6b7b8b9c4a0b1b2b3b4b5b6b7b8b9c5a0b1b2b3b4b5b6c6b7b8b9c3a0b1",
  "VS32b3b4b5b6b7b8b9c4a0b1b2b3b4b5b6b7b8b9c5a0b1b2b3b4b5b6b7b8b9c6a0b1b2b3b4b5b6b7b8b9c7a0b1b2b3",
  "VS74b5b6b7b8b9c8a0b1b2b3b4b5b6b7b8b9c9a0b1b2b3b4b5b6b7b8b9dTaScULCANUS",
  "VULGAR FRACTION FIVE EIGHTHShSIXTHSkOUR FIFTHSlONE EIGHTHgFIFTHfHALFeNINTHfQUARTERhSEVENTH",
  "VULGAR FRACTION ONE SIXTHfTENTHeHIRDjSEVEN EIGHTHSnTHREE EIGHTHShFIFTHSgQUARTERSnWO FIFTHS",
  "VULGAR FRACTION TWO THIRDSkZERO THIRDS",
  "WAFFLEeNCHO DIGIT EIGHTfFIVEdOUReNINEeONEdSEVENeIXdTHREEeWOdZEROkLETTER AaAaNaGdNGcUcBAcCAcDA",
  "WANCHO LETTER EaNcFAcGAcHAcIaNGdJAcKAbHAdLAbLHAeMAcNAbGAcYAdOaNaGdPAbHAdRAcSAbHAdTAbHAcRAcSAdU",
  "WANCHO LETTER UENdVAcWAcYAbIHdZAjNGUN SIGNjTONE KOIaNIfTUPaNIoING CRESCENT MOON SYMBOL",
  "WANING GIBBOUS MOON SYMBOLyRANG CITI CAPITAL LETTER AaMbNGcTcBUcDAcEaNNbYdGAcHARcIYOdOLOcRReII",
  "WARANG CITI CAPITAL LETTER KOcNGAAdUNGeOaDDdPUcSIIcSUUeTTEdUCbUcVIYOeWIcYAbObUaJsDIGIT EIGHT",
  "WARANG CITI DIGIT FIVEdOUReNINEeONEdSEVENeIXdTHREEeWOdZEROkNUMBER EIGHTYgFIFTYeORTYfNINETY",
  "WARANG CITI NUMBER SEVENTYgIXTYfTENcHIRTYfWENTYnOMcSMALL LETTER AaMbNGcTcBUcDAcEaNNbYdGAcHAR",
  "WARANG CITI SMALL LETTER HIYOdOLOcRReIIcKOcNGAAdUNGeOaDDdPUcSIIcSUUeTTEdUCbUcVIYOeWIcYAbObUaJ",
  "WARNING SIGNkSTEBASKETjTCHcER BUFFALOhCLOSETgPOLOeWAVEfMELONiVE ARROW POINTING DIRECTLY LEFT",
  "WAVE ARROW POINTING DIRECTLY RIGHT",
  "WAVE DASHgING BLACK FLAGkHAND SIGNjWHITE FLAGoY DASHeLINEdOW LINEiOVERLINE",
  "WAXING CRESCENT MOON SYMBOLuGIBBOUS MOON SYMBOLzEARY CAT FACEiFACEiDDING",
  "WEDGE-TAILED RIGHTWARDS ARROW",
  "WEIERSTRASS ELLIPTIC FUNCTION",
  "WEIGHT LIFTERlST SYRIAC CROSSqHALEdEELa OF DHARMAkCHAIR SYMBOLpITE ARROW SHAFT WIDTH ONE",
  "WHITE ARROW SHAFT WIDTH TWO THIRDS",
  "WHITE BULLETgCHESS BISHOPa ROTATED NINETY DEGREESoTWO HUNDRED SEVENTY DEGREES",
  "WHITE CHESS EQUIHOPPERa ROTATED NINETY DEGREES",
  "WHITE CHESS KINGa ROTATED NINETY DEGREESoTWO HUNDRED SEVENTY DEGREES",
  "WHITE CHESS KNIGHTa ROTATED FORTY-FIVE DEGREESsNINETY DEGREESoONE HUNDRED THIRTY-FIVE DEGREES",
  "WHITE CHESS KNIGHT ROTATED THREE HUNDRED FIFTEEN DEGREES",
  "WHITE CHESS KNIGHT ROTATED TWO HUNDRED SEVENTY DEGREESpTWENTY-FIVE DEGREES",
  "WHITE CHESS KNIGHT-BISHOPgQUEENfROOKlPAWNa ROTATED NINETY DEGREESoTWO HUNDRED SEVENTY DEGREES",
  "WHITE CHESS QUEENa ROTATED NINETY DEGREESoTWO HUNDRED SEVENTY DEGREES",
  "WHITE CHESS ROOKa ROTATED NINETY DEGREESoTWO HUNDRED SEVENTY DEGREES",
  "WHITE CHESS TURNED BISHOPgKINGdNIGHTgPAWNeQUEENfROOKqIRCLEa CONTAINING BLACK SMALL CIRCLE",
  "WHITE CIRCLE WITH DOT RIGHThWN ARROWkLOWER LEFT QUADRANTnRIGHT QUADRANTuTWO DOTS",
  "WHITE CIRCLE WITH UPPER LEFT QUADRANTnRIGHT QUADRANT",
  "WHITE CLUB SUITiONCAVE-SIDED DIAMONDa WITH LEFTWARDS TICKoRIGHTWARDS TICK",
  "WHITE DIAMONDa CONTAINING BLACK MEDIUM DIAMONDoSMALL DIAMONDnVERY SMALL DIAMOND",
  "WHITE DIAMOND IN SQUAREjSUITeWITH CENTRED DOTxOWN POINTING BACKHAND INDEXoINDEX",
  "WHITE DOWN POINTING LEFT HAND INDEXz-POINTING SMALL TRIANGLEoTRIANGLEvRAUGHTS KINGeMAN",
  "WHITE EXCLAMATION MARK ORNAMENTzFLAGa WITH HORIZONTAL MIDDLE BLACK STRIPE",
  "WHITE FLORETTEfWERfOUR POINTED CUSPeSTARqROWNING FACEnHARD SHELL FLOPPY DISKvEARTa SUIT",
  "WHITE HEAVY CHECK MARKkSALTIRE WITH ROUNDED CORNERS",
  "WHITE HEXAGONgORIZONTAL ELLIPSEqURGLASSjLARGE SQUAREkTIN CROSSkEFT LANE MERGE",
  "WHITE LEFT POINTING BACKHAND INDEXoINDEXp-POINTING POINTERhSMALL TRIANGLEoTRIANGLE",
  "WHITE LOZENGE CONTAINING BLACK SMALL LOZENGE",
  "WHITE MEDIUM DIAMONDhLOZENGEhSMALL SQUARElQUAREfTARkOON SELENAlNIBdPARALLELOGRAMmENNANTeTAGON",
  "WHITE QUESTION MARK ORNAMENTwRECTANGLEiIGHT POINTING BACKHAND INDEXoINDEXp-POINTING PENTAGON",
  "WHITE RIGHT-POINTING POINTERhSMALL TRIANGLEoTRIANGLExSCISSORShESAME DOTjHOGI PIECE",
  "WHITE SMALL LOZENGEhSQUAREfTARiILING FACElPADE SUITjQUAREa BUTTON",
  "WHITE SQUARE CONTAINING BLACK MEDIUM SQUAREnSMALL SQUAREmVERY SMALL SQUARE",
  "WHITE SQUARE WITH CENTRE VERTICAL LINEuLEFTWARDS TICKnOWER LEFT QUADRANTnRIGHT QUADRANT",
  "WHITE SQUARE WITH RIGHTWARDS TICKoOUNDED CORNERSpUPPER LEFT QUADRANTnRIGHT QUADRANT",
  "WHITE SQUARE WITH VERTICAL BISECTING LINE",
  "WHITE STARdUNa BEHIND CLOUDa WITH RAINwWITH RAYSeSMALL CLOUDuTELEPHONEiOUCHTONE TELEPHONE",
  "WHITE TRAPEZIUMhIANGLE CONTAINING SMALL WHITE TRIANGLE",
  "WHITE TWO-WAY LEFT WAY TRAFFICyUP POINTING BACKHAND INDEXoINDEXp-POINTING CHEVRON",
  "WHITE UP-POINTING SMALL TRIANGLEoTRIANGLEa WITH DOT",
  "WHITE VERTICAL BARdELLIPSEhRECTANGLEpY SMALL SQUAREs-FEATHERED RIGHTWARDS ARROW",
  "WIDE-HEADED DOWNWARDS BARB ARROWkHEAVY BARB ARROWqLIGHT BARB ARROWqMEDIUM BARB ARROW",
  "WIDE-HEADED DOWNWARDS VERY HEAVY BARB ARROW",
  "WIDE-HEADED LEFTWARDS BARB ARROWkHEAVY BARB ARROWqLIGHT BARB ARROWqMEDIUM BARB ARROW",
  "WIDE-HEADED LEFTWARDS VERY HEAVY BARB ARROW",
  "WIDE-HEADED NORTH EAST BARB ARROWkHEAVY BARB ARROWqLIGHT BARB ARROWqMEDIUM BARB ARROW",
  "WIDE-HEADED NORTH EAST VERY HEAVY BARB ARROW",
  "WIDE-HEADED NORTH WEST BARB ARROWkHEAVY BARB ARROWqLIGHT BARB ARROWqMEDIUM BARB ARROW",
  "WIDE-HEADED NORTH WEST VERY HEAVY BARB ARROW",
  "WIDE-HEADED RIGHTWARDS BARB ARROWkHEAVY BARB ARROWqLIGHT BARB ARROWqMEDIUM BARB ARROW",
  "WIDE-HEADED RIGHTWARDS VERY HEAVY BARB ARROW",
  "WIDE-HEADED SOUTH EAST BARB ARROWkHEAVY BARB ARROWqLIGHT BARB ARROWqMEDIUM BARB ARROW",
  "WIDE-HEADED SOUTH EAST VERY HEAVY BARB ARROW",
  "WIDE-HEADED SOUTH WEST BARB ARROWkHEAVY BARB ARROWqLIGHT BARB ARROWqMEDIUM BARB ARROW",
  "WIDE-HEADED SOUTH WEST VERY HEAVY BARB ARROW",
  "WIDE-HEADED UPWARDS BARB ARROWkHEAVY BARB ARROWqLIGHT BARB ARROWqMEDIUM BARB ARROW",
  "WIDE-HEADED UPWARDS VERY HEAVY BARB ARROW",
  "WIGGLY VERTICAL LINEsLTED FLOWERlND BLOWING FACEmCHIMEgOWdE GLASShKING FACEkRED KEYBOARDnJ",
  "WOLF FACEhMANa WITH BUNNY EARSqS BOOTSfCLOTHEShHATdSANDALkENS SYMBOLlN SIGNgODcRD JOINER",
  "WORD SEPARATOR MIDDLE DOTwLD MAPgMbRIED FACElRAPPED PRESENTnEATH PRODUCTlNCHdSTLERShITING HAND",
  "X IN A RECTANGLE BOXt-RAYeIANGQI BLACK CANNONfHARIOThELEPHANTiGENERALhHORSEfMANDARINiSOLDIER",
  "XIANGQI RED CANNONfHARIOThELEPHANTiGENERALhHORSEfMANDARINiSOLDIERsORdYAWNING FACElELLOW HEART",
  "YEN SIGNgZIDI COMBINING HAMZA MARKkMADDA MARKuHYPHENATION MARKqLETTER BEcCHHIMdIMdIMdDADbL",
  "YEZIDI LETTER ELIFdTbWbYNdFAcGAFdHAYcHAdJAcKAFcHAFeLAMa WITH DOT ABOVEsMIMdNUNdOWcPEbHEdQAFdRA",
  "YEZIDI LETTER RHAdSADcEbHINdINdTAbHEdUMcVAa ALTERNATE FORMrWAWdXAbHEYNfYOT",
  "YEZIDI LETTER YOT WITH CIRCUMFLEX ABOVEzZAaLcEpI RADICAL BBUTdURdCHEcIPcUOPdYaPbTdDDURdUcGAbEP",
  "YI RADICAL GGOPcUOdOTdHMOcXITcOPcUOeJJIEcUTcYcOcKEbITdLIaEcYRdMIbOPdNBIEdYIPcOPdZUPeOPcPUTcYT",
  "YI RADICAL QOTdSHATcOPcURcYcSIdTATcUcVEPcURdWOcYITcOcZAbOTcUPbRcZIETnSYLLABLE AaPbTbXcBAaPbTbX",
  "YI SYLLABLE BBAaPbTbXcEaPbXcIaEaPbTbXcPbTbXcOaPbTbXcUaOaPbXcPbRaXcTbXcYaPbTbXdEaPbXcIaEaPbTbX",
  "YI SYLLABLE BIPbTbXcOaPbTbXcUaOaPbXcPbRaXcTbXcYaPbRaXcTbXdCAaPbTbXcEaPbXcHAaPbTbXcEaPbTbXcOaP",
  "YI SYLLABLE CHOTbXcUaOaPbTbXcPbRaXcXcYaPbRaXcTbXdIaEaPbTbXcPbTbXcOaPbTbXcUaOaPbXcPbRaXcTbXcYaP",
  "YI SYLLABLE CYRaXcTbXdDAaPbTbXcDAaPbTbXcEaPbXcIaEaPbXcPbTbXcOaPbTbXcUaOaPbXcPbRaXcTbXdEaPbXcI",
  "YI SYLLABLE DIEaPbXcPbTbXcOaPbTbXcUaOaXcPbRaXcTbXdEaXcFAaPbTbXcIaPbTbXcOaPbXcUaPbRaXcTbXcYaPbT",
  "YI SYLLABLE FYXdGAaPbTbXcEaPbTbXcGAaPbTbXcEaPbTbXcIaEaPbXcTbXcOaPbTbXcUaOaPbTbXcPbRaXcTbXdIaE",
  "YI SYLLABLE GIEPbTbXcPbTbXcOaPbTbXcUaOaPbTbXcPbRaXcTbXdHAaPbTbXcEaPbXcIEaXcTcLAaPbTbXcEaPbXcI",
  "YI SYLLABLE HLIEaPbXcPbTbXcOaPbXcUaOaPbXcPbRaXcTbXcYaPbRaXcTbXdMAaPbTbXcIaEaPbXcPbTbXcOaPbTbX",
  "YI SYLLABLE HMUaOaPbXcPbRaXcTbXcYaPbRaXcXdNAaPbTbXcEaPbXcIaEaPbTbXcPbTbXcOPbTbXcUOaXcTdOaPbTbX",
  "YI SYLLABLE HUOaPbTbXdXAaPbTbXcEaPbXcIaEaPbTbXcPbTbXcOaPbTbXcUOaPbTbXfIaEaPbTbXcPbT",
  "YI SYLLABLE ITERATION MARKnXcJIaEaPbTbXcPbTbXcJIaEaPbTbXcPbTbXcOaPbTbXcUaOaPbXcPbRaXcTbXcYaPbT",
  "YI SYLLABLE JJYXdOaPbTbXcUaOaPbTbXcPbRaXcTbXcYaPbRaXcTbXdKAaPbTbXcEaPbTbXcIaEaPbXcPbTbXcOaPbT",
  "YI SYLLABLE KOXcUaOaPbXcPbRaXcTbXdLAaPbTbXcEaPbXcIaEaPbTbXcPbTbXcOaPbTbXcUaOaPbTbXcPbRaXcTbXcY",
  "YI SYLLABLE LYPbRaXcTbXdMAaPbTbXcEaXcGAaPbTbXcEaPbXcIEaXdOaPbTbXcUaOaPbXcPbRaXcTbXdIaEaPbXcPbT",
  "YI SYLLABLE MIXcOaPbTbXcUaOaPbTbXcPbRaXcTbXcYaPbTbXdNAaPbXcBAaPbTbXcIaEaPbXcPbTbXcOaPbTbXcUaP",
  "YI SYLLABLE NBURaXcTbXcYaPbRaXcTbXdDAaPbTbXcEaPbXcIaEaXcPbTbXcOaPbTbXcUaPbRaXcTbXdEaPbXcGAaPbT",
  "YI SYLLABLE NGAXcEaPbXcIEaPbXdOaPbTbXcUOaTbXeIaEaPbXcPbTbXcJIaEaPbTbXcPbTbXcOaPbTbXcUaOaXcPbR",
  "YI SYLLABLE NJURXcXcYaPbRaXcTbXdOaPbTbXcRAaPbTbXcEaPbTbXcOaPbXcUaPbRaXcTbXcYaPbRaXcTbXdUaOaPbX",
  "YI SYLLABLE NUPbRaXcTbXcYIaEaPbTbXcPbTbXcOaPbTbXcUaOaPbXcPbTbXdZAaPbTbXcEaXcIaEaPbXcPbTbXcOPbX",
  "YI SYLLABLE NZUaOaXcPbRaXcXcYaPbRaXcTbXeOaPbTbXcPAaPbTbXcIaEaPbXcPbTbXcOaPbTbXcUaOaPbXcPbRaXcT",
  "YI SYLLABLE PUXcYaPbRaXcTbXdQIaEaPbTbXcPbTbXcOaPbTbXcUaOaPbTbXcPbRaXcTbXcYaPbRaXcTbXdRAaPbTbX",
  "YI SYLLABLE REaPbXcOaPbTbXcRAaXcEaPbTbXcOaPbTbXcUaOaXcPbRaXcTbXcYaPbRaXcTbXdUaOaPbXcPbRaXcTbX",
  "YI SYLLABLE RYaPbRaXcTbXdSAaPbTbXcEaPbXcHAaPbTbXcEaPbTbXcOaPbTbXcUaOaPbXcPbRaXcTbXcYaPbRaXcTbX",
  "YI SYLLABLE SIaEaPbXcPbTbXcOaPbTbXcSAaPbTbXcEaPbXcIaEaPbXcPbTbXcOaPbTbXcUaPbTbXcYaPbRaXcTbXdU",
  "YI SYLLABLE SUOaPbXcPbRaXcTbXcYaPbRaXcTbXdTAaPbTbXcEaPbXcIaEaPbXcPbTbXcOaPbTbXcUaOaPbTbXcPbRaX",
  "YI SYLLABLE TUTbXdUOaPbXdVAaPbTbXcEPbXcIaEaPbTbXcPbTbXcOaPbTbXcUaPbRaXcTbXcYaPbRaXcTbXdWAaPbT",
  "YI SYLLABLE WAXcEaPbXcOaPbXcUaOaPbXeXIaEaPbTbXcPbTbXcOaPbTbXcUOaXdYaPbRaXcTbXdYIaEaPbTbXcPbTbX",
  "YI SYLLABLE YOaPbTbXcUaOaPbTbXcPbRaXcTbXcYaPbRaXcTbXdZAaPbTbXcEaPbXcHAaPbTbXcEaPbTbXcOaPbTbXcU",
  "YI SYLLABLE ZHUOaPbXcPbRaXcTbXcYaPbRaXcTbXdIaEaPbXcPbTbXcOaPbTbXcUaOaPbXcPbRaXcTbXcYaPbRaXcTbX",
  "YI SYLLABLE ZZAaPbTbXcEaPbXcIaEaPbTbXcPbTbXcOaPbXcUaPbRaXcXcYaPbRaXcTbXoN YANGhO-YO",
  "Z NOTATION BAG MEMBERSHIPoDOMAIN ANTIRESTRICTIONwLEFT BINDING BRACKETpIMAGE BRACKET",
  "Z NOTATION RANGE ANTIRESTRICTIONuELATIONAL COMPOSITIONvIGHT BINDING BRACKETpIMAGE BRACKET",
  "Z NOTATION SCHEMA COMPOSITIONlPIPINGfROJECTIONqPOTeTYPE COLON",
  "ZANABAZAR SQUARE CLOSING DOUBLE-LINED HEAD MARKwHEAD MARKpUSTER-FINAL LETTER LAcRAcVAcYA",
  "ZANABAZAR SQUARE CLUSTER-INITIAL LETTER RAzFINAL CONSONANT MARKuINITIAL DOUBLE-LINED HEAD MARK",
  "ZANABAZAR SQUARE INITIAL HEAD MARKrLETTER -AcAbBAbHAdCAbHAdDAbDAbHAdHAcZAbHAeGAbHAdHAcJAcKAbHA",
  "ZANABAZAR SQUARE LETTER KSSAeLAcMAcNAbGAcNAcYAdPAbHAdRAcSAbHAcSAdTAbHAcSAbHAdTAbHAeVAcYAcZAbHA",
  "ZANABAZAR SQUARE MARK DOUBLE SHADlLONG TSHEGkSHADeTSHEGkSIGN ANUSVARAiCANDRA WITH ORNAMENT",
  "ZANABAZAR SQUARE SIGN CANDRABINDUa WITH ORNAMENTzVIRAMAeSARGAlUBJOINERjVOWEL LENGTH MARK",
  "ZANABAZAR SQUARE VOWEL SIGN AIbUcEbIbOaEcREVERSED IkUaE",
  "ZEBRA FACEiRO WIDTH JOINERgNO-BREAK SPACEmN-JOINERkSPACEoUSdIPPER-MOUTH FACE",
  "ZNAMENNY COMBINING ATTACHING VERTICAL OMETxLOWER TONAL RANGE INDICATOR",
  "ZNAMENNY COMBINING MARK BORZAYAhCHASHKAa POLNAYAoURVED OMETlDEMESTVENNY ZADERZHKAuVOETOCHIE",
  "ZNAMENNY COMBINING MARK GORAZDO NIZKO ON LEFTeRIGHTiS KRYZHEM ON LEFTeRIGHTyVYSOKOoKACHKAfRYZH",
  "ZNAMENNY COMBINING MARK KRYZH ON LEFTmUPNAYAhLOMKAfMALO POVYSHE ON LEFTeRIGHT",
  "ZNAMENNY COMBINING MARK MALO POVYSHE S KHOKHLOM ON LEFTeRIGHTqRYZHEMiTRANNOuNIZKO ON LEFT",
  "ZNAMENNY COMBINING MARK NIZKO ON RIGHTiS KRYZHEM ON LEFTeRIGHTyOBLACHKOhNbTSECHKAiPODCHASHIE",
  "ZNAMENNY COMBINING MARK PODCHASHIE WITH VERTICAL STROKE",
  "ZNAMENNY COMBINING MARK PODVERTKAhVYSHE ON LEFTeRIGHTiS KHOKHLOM ON LEFTeRIGHTqRYZHEMiTRANNO",
  "ZNAMENNY COMBINING MARK RAVNOdZSEKAhSKOBAeOROCHYA NOZHKAoREDNE ON LEFTeRIGHT",
  "ZNAMENNY COMBINING MARK STRANNO MALO POVYSHEuTIKHAYAgOCHKAfSATA ON LEFTeRIGHTiS KRYZHEMpUDARKA",
  "ZNAMENNY COMBINING MARK VYSOKO ON LEFTeRIGHTiS KHOKHLOM ON LEFTeRIGHTqRYZHEMqZADERZHKAiELOcVOK",
  "ZNAMENNY COMBINING TONAL RANGE MARK MRACHNOhSVETLOgTRESVETLO",
  "ZNAMENNY NEUME CHASHKAfELYUSTKAkDEMESTVENNY KLYUCHqRBITSAhOUBLE ZAPYATAYApUDAdVA V CHELNUmFITA",
  "ZNAMENNY NEUME GOLUBCHIK BORZYfMRACHNYhSVETLYgTIKHYeRESVETLYtKHAMILOgLYUCHfOBYLAfRYUKa TIKHY",
  "ZNAMENNY NEUME KRYZHeUFISMAhMECHIKa KLYUCHENEPOSTOYANNYmPOVODNYhVOYkPOVODNYoNEMKAfOBLAKOfSOKA",
  "ZNAMENNY NEUME OSOKA KLYUCHEVAYA NEPOSTOYANNAYAoSVETLAYAtRYUKOVAYA SVETLAYAtSVETLAYA",
  "ZNAMENNY NEUME OSOKA TRESVETLAYArPALKAdRAKLITgUKdEREVODKAa NEPOSTOYANNAYAxODCHASHIEiLKULIZMY",
  "ZNAMENNY NEUME REVERSED CHELYUSTKAsOGdSKAMEYTSA DVOECHELNAYA KLYUCHEVAYAlNEPOSTOYANNAYA",
  "ZNAMENNY NEUME SKAMEYTSA DVOECHELNAYA PROSTAYAiSVETLAYAvKLYUCHENEPOSTOYANNAYAoVAYA SVETLAYA",
  "ZNAMENNY NEUME SKAMEYTSA KLYUCHEVAYA TIKHAYAtMRACHNAYAjSVETLAYAiTIKHAYAgRESVETLAYAuLOZHITIE",
  "ZNAMENNY NEUME SLOZHITIE S KRYZHEMhZAPYATOYkZAKRYTOErTATYAa NEPOSTOYANNAYAoS DVUMYA ZAPYATYMI",
  "ZNAMENNY NEUME STATYA S KRYZHEMa I ZAPYATOYsROGOMfZAPYATOYa I KRYZHEMhPODCHASHIEMyZAKRYTAYA",
  "ZNAMENNY NEUME STATYA ZAKRYTAYA S ZAPYATOYzOPITSAa S OCHKOMiWITH SOROCHYA NOZHKA",
  "ZNAMENNY NEUME STRELA DVOECHELNAYAa KLYUCHEVAYApOKRYZHEVAYAkPOVODNAYAa KLYUCHEVAYA",
  "ZNAMENNY NEUME STRELA GROMNAYAa WITH SINGLE ZAPYATAYA",
  "ZNAMENNY NEUME STRELA GROMOKRYZHEVAYAa POVODNAYAuPOVODNAYAa WITH DOUBLE ZAPYATAYA",
  "ZNAMENNY NEUME STRELA GROMOPOVODNAYA WITH SINGLE ZAPYATAYA",
  "ZNAMENNY NEUME STRELA KLYUCHENEPOSTOYANNAYAoPOVODNAYApRYUKOVAYAa GROMNAYA",
  "ZNAMENNY NEUME STRELA KRYUKOVAYA GROMNAYA WITH SINGLE ZAPYATAYA",
  "ZNAMENNY NEUME STRELA KRYUKOVAYA GROMOKRYZHEVAYAa POVODNAYAuPOVODNAYAa WITH DOUBLE ZAPYATAYA",
  "ZNAMENNY NEUME STRELA KRYUKOVAYA GROMOPOVODNAYA WITH SINGLE ZAPYATAYA",
  "ZNAMENNY NEUME STRELA KRYUKOVAYA POVODNAYAjTRYASKApZHEVAYAkMRACHNOTIKHAYAoNEPOSTOYANNAYA",
  "ZNAMENNY NEUME STRELA POLUPOVODNAYAlVODNAYAiROSTAYAiTIKHAYA PUTNAYAoRYASOGLASNAYAiPOVODNAYA",
  "ZNAMENNY NEUME STRELA TRYASOSTRELNAYAwVRAKHIYA KLYUCHEVAYA MRACHNAYAjPROSTAYAiSVETLAYA",
  "ZNAMENNY NEUME VRAKHIYA KLYUCHEVAYA TRESVETLAYAxMRACHNAYAjPROSTAYAiSVETLAYAiTRESVETLAYA",
  "ZNAMENNY NEUME ZANOZHEKgPYATAYAiMEYTSAnPRIZNAK MODIFIER DIRECTION FLIPoKRYZHfLEVEL-2b3hROG",
  "ZOMBIEfWJbNBSPdJcSP"]

end BuildAudit.Text
