import DocComments.Text.CharacterName.Table

/-!
# Names of characters: U+11000 to U+11FFF

The names of the scripts from Brahmi to Makasar.
-/

namespace DocComments.Text.CharacterName

/-- The names. -/
def brahmic : NameTable :=
  [ (0x11000,
      "aBRAHMI SIGN CANDRABINDUmANUSVARAmVISARGAmJIHVAMULIYAmUPADHMANIYAhLETTER ApAoIpIoUpUoVOCA" ++
      "LIC RxRwLxLoEoAIoOoAUoKApHAoGApHAoNGAoCApHAoJApHAoNYAoTTAqHAoDDAqHAoNNAoTApHAoDApHAoNAoPA" ++
      "pHAoBApHAoMAoYAoRAoLAoVAoSHApSApAoHAoLLAoOLD TAMIL LLLAyRRAyNNNAhVOWEL SIGN AAsBHATTIPROL" ++
      "U AAsItIsUtUsVOCALIC RzcRzbLzcLsEsAIsOsAUiIRAMAhDANDAiOUBLE DANDAhPUNCTUATION DOTvUBLE DO" ++
      "TtLINEtCRESCENT BARtLOTUS"),
    (0x11052,
      "hNUMBER ONEoTWOpHREEoFOURpIVEoSIXpEVENoEIGHToNINEoTENpWENTYpHIRTYoFORTYpIFTYoSIXTYpEVENTY" ++
      "oEIGHTYoNINETYoONE HUNDREDsTHOUSANDhDIGIT ZEROnONEnTWOoHREEnFOURoIVEnSIXoEVENnEIGHTnNINEh" ++
      "SIGN OLD TAMIL VIRAMAhLETTER OLD TAMIL SHORT EzfOhVOWEL SIGN OLD TAMIL SHORT EzjOhLETTER " ++
      "OLD TAMIL LLA"),
    (0x1107F,
      "hNUMBER JOINERaKAITHI SIGN CANDRABINDUmANUSVARAmVISARGAhLETTER ApAoIpIoUpUoEoAIoOoAUoKApH" ++
      "AoGApHAoNGAoCApHAoJApHAoNYAoTTAqHAoDDAqDHAqHAoRHAoNNAoTApHAoDApHAoNAoPApHAoBApHAoMAoYAoRA" ++
      "oLAoVAoSHApSApAoHAhVOWEL SIGN AAsItIsUtUsEsAIsOsAUhSIGN VIRAMAmNUKTAhABBREVIATION SIGNhEN" ++
      "UMERATION SIGNhNUMBER SIGNhSECTION MARKhDOUBLE SECTION MARKiANDAiOUBLE DANDAhVOWEL SIGN V" ++
      "OCALIC R"),
    (0x110CD, "hNUMBER SIGN ABOVE"),
    (0x110D0,
      "aSORA SOMPENG LETTER SAHuTAHuBAHuCAHuDAHuGAHuMAHuNGAHuLAHuNAHuVAHuPAHuYAHuRAHuHAHuKAHuJAH" ++
      "uNYAHuAHuEEHuIHuUHuOHuEHuMAE"),
    (0x110F0, "nDIGIT ZEROtONEtTWOuHREEtFOURuIVEtSIXuEVENtEIGHTtNINE"),
    (0x11100,
      "aCHAKMA SIGN CANDRABINDUmANUSVARAmVISARGAhLETTER AAoIoUoEoKAApHAAoGAApHAAoNGAAoCAApHAAoJA" ++
      "ApHAAoNYAAoTTAAqHAAoDDAAqHAAoNNAAoTAApHAAoDAApHAAoNAAoPAApHAAoBAApHAAoMAAoYYAApAAoRAAoLAA" ++
      "oWAAoSAAoHAAhVOWEL SIGN AsItIsUtUsEsAIsOsAUsOIhO MARKhAU MARKhVIRAMAhMAAYYAA"),
    (0x11136,
      "hDIGIT ZEROnONEnTWOoHREEnFOURoIVEnSIXoEVENnEIGHTnNINEhSECTION MARKhDANDAiOUBLE DANDAhQUES" ++
      "TION MARKhLETTER LHAAhVOWEL SIGN AAsEIhLETTER VAA"),
    (0x11150,
      "aMAHAJANI LETTER AqIqUqEqOqKArHAqGArHAqCArHAqJArHAqNYAqTTAsHAqDDAsHAqNNAqTArHAqDArHAqNAqP" ++
      "ArHAqBArHAqMAqRAqLAqVAqSAqHAqRRAjSIGN NUKTAjABBREVIATION SIGNjSECTION MARKjLIGATURE SHRI"),
    (0x11180,
      "aSHARADA SIGN CANDRABINDUnANUSVARAnVISARGAiLETTER AqApIqIpUqUpVOCALIC RyRxLyLpEpAIpOpAUpK" ++
      "AqHApGAqHApNGApCAqHApJAqHApNYApTTArHApDDArHApNNApTAqHApDAqHApNApPAqHApBAqHApMApYApRApLAqL" ++
      "ApVApSHAqSAqApHAiVOWEL SIGN AAtIuItUuUtVOCALIC RzdRzcLzdLtEtAItOtAUiSIGN VIRAMAnAVAGRAHAn" ++
      "JIHVAMULIYAnUPADHMANIYAiOMiDANDAjOUBLE DANDAiABBREVIATION SIGNiSEPARATORjANDHI MARKjIGN N" ++
      "UKTAiVOWEL MODIFIER MARKiEXTRA SHORT VOWEL MARKiSUTRA MARKiVOWEL SIGN PRISHTHAMATRA EiSIG" ++
      "N INVERTED CANDRABINDUiDIGIT ZEROoONEoTWOpHREEoFOURpIVEoSIXpEVENoEIGHToNINEiEKAMiSIGN SID" ++
      "DHAMiHEADSTROKEiCONTINUATION SIGNiSECTION MARK-1v2"),
    (0x111E1,
      "bINHALA ARCHAIC DIGIT ONEwTWOxHREEwFOURxIVEwSIXxEVENwEIGHTwNINEqNUMBER TENyWENTYyHIRTYxFO" ++
      "RTYyIFTYxSIXTYyEVENTYxEIGHTYxNINETYxONE HUNDREDzcTHOUSAND"),
    (0x11200, "aKHOJKI LETTER ApAoIoUoEoAIoOoAUoKApHAoGApGApHAoNGAoCApHAoJApJA"),
    (0x11213,
      "oNYAoTTAqHAoDDAqHAoNNAoTApHAoDApDDApHAoNAoPApHAoBApBApHAoMAoYAoRAoLAoVAoSAoHAoLLAhVOWEL S" ++
      "IGN AAsItIsUsEsAIsOsAUhSIGN ANUSVARAmVIRAMAmNUKTAmSHADDAhDANDAiOUBLE DANDAhWORD SEPARATOR" ++
      "hSECTION MARKhDOUBLE SECTION MARKhABBREVIATION SIGNhSIGN SUKUN"),
    (0x11280, "aMULTANI LETTER ApIpUpEpKAqHApGA"), (0x11288, "qHA"), (0x1128A, "pCAqHApJAqJA"),
    (0x1128F, "pNYApTTArHApDDArDArHApNNApTAqHApDAqHApNApPAqHApBA"),
    (0x1129F, "qHApMApYApRApLApVApSApHApRRAqHAiSECTION MARK"),
    (0x112B0,
      "aKHUDAWADI LETTER AsArIsIrUsUrErAIrOrAUrKAsHArGAsGAsHArNGArCAsHArJAsJAsHArNYArTTAtHArDDAt" ++
      "DArRRArDDHArNNArTAsHArDAsHArNArPAsHArBAsBAsHArMArYArRArLArVArSHAsArHAkSIGN ANUSVARAkVOWEL" ++
      " SIGN AAvIwIvUwUvEvAIvOvAUkSIGN NUKTApVIRAMA"),
    (0x112F0, "kDIGIT ZEROqONEqTWOrHREEqFOURrIVEqSIXrEVENqEIGHTqNINE"),
    (0x11300, "aGRANTHA SIGN COMBINING ANUSVARA ABOVEoANDRABINDUnANUSVARAnVISARGA"),
    (0x11305, "iLETTER AqApIqIpUqUpVOCALIC RxL"), (0x1130F, "pEEpAI"),
    (0x11313, "pOOpAUpKAqHApGAqHApNGApCAqHApJAqHApNYApTTArHApDDArHApNNApTAqHApDAqHApNA"),
    (0x1132A, "pPAqHApBAqHApMApYApRA"), (0x11332, "pLAqLA"), (0x11335, "pVApSHAqSAqApHA"),
    (0x1133B,
      "aCOMBINING BINDU BELOWaGRANTHA SIGN NUKTAnAVAGRAHAiVOWEL SIGN AAtIuItUuUtVOCALIC RzdR"),
    (0x11347, "tEEtAI"), (0x1134B, "tOOtAUiSIGN VIRAMA"), (0x11350, "iOM"),
    (0x11357, "iAU LENGTH MARK"),
    (0x1135D,
      "iSIGN PLUTAiLETTER VEDIC ANUSVARAvDOUBLE ANUSVARAqOCALIC RRxLLiVOWEL SIGN VOCALIC LzdL"),
    (0x11366, "aCOMBINING GRANTHA DIGIT ZEROyONEyTWOzaHREEyFOURzaIVEySIX"),
    (0x11370, "sLETTER AzaKAzaNAzaVIzaPA"),
    (0x11400,
      "aNEWA LETTER AnAmInImUnUmVOCALIC RvRuLvLmEmAImOmAUmKAnHAmGAnHAmNGAoHAmCAnHAmJAnHAmNYAoHAm" ++
      "TTAoHAmDDAoHAmNNAmTAnHAmDAnHAmNAnHAmPAnHAmBAnHAmMAnHAmYAmRAnHAmLAnHAmWAmSHAnSAnAmHAfVOWEL" ++
      " SIGN AAqIrIqUrUqVOCALIC RzaRyLzaLqEqAIqOqAUfSIGN VIRAMAkCANDRABINDUkANUSVARAkVISARGAkNUK" ++
      "TAkAVAGRAHAkFINAL ANUSVARAfOMfSIDDHIfDANDAgOUBLE DANDAfCOMMAfGAP FILLERfABBREVIATION SIGN" ++
      "fDIGIT ZEROlONElTWOmHREElFOURmIVElSIXmEVENlEIGHTlNINEgOUBLE COMMAfPLACEHOLDER MARK"),
    (0x1145D, "fINSERTION SIGNfSANDHI MARKfLETTER VEDIC ANUSVARAfSIGN JIHVAMULIYAkUPADHMANIYA"),
    (0x11480,
      "aTIRHUTA ANJIiLETTER AqApIqIpUqUpVOCALIC RyRxLyLpEpAIpOpAUpKAqHApGAqHApNGApCAqHApJAqHApNY" ++
      "ApTTArHApDDArHApNNApTAqHApDAqHApNApPAqHApBAqHApMApYApRApLApVApSHAqSAqApHAiVOWEL SIGN AAtI" ++
      "uItUuUtVOCALIC RzdRzcLzdLtEtSHORT EtAItOtSHORT OtAUiSIGN CANDRABINDUnANUSVARAnVISARGApRAM" ++
      "AnNUKTAnAVAGRAHAiGVANGiABBREVIATION SIGNiOM"),
    (0x114D0, "iDIGIT ZEROoONEoTWOpHREEoFOURpIVEoSIXpEVENoEIGHToNINE"),
    (0x11580,
      "aSIDDHAM LETTER AqApIqIpUqUpVOCALIC RyRxLyLpEpAIpOpAUpKAqHApGAqHApNGApCAqHApJAqHApNYApTTA" ++
      "rHApDDArHApNNApTAqHApDAqHApNApPAqHApBAqHApMApYApRApLApVApSHAqSAqApHAiVOWEL SIGN AAtIuItUu" ++
      "UtVOCALIC RzdR"),
    (0x115B8,
      "tEtAItOtAUiSIGN CANDRABINDUnANUSVARAnVISARGApRAMAnNUKTAnSIDDHAMiDANDAjOUBLE DANDAiSEPARAT" ++
      "OR DOTsBARiREPETITION MARK-1y2y3iEND OF TEXT MARKiSECTION MARK WITH TRIDENT AND U-SHAPED " ++
      "ORNAMENTSznDOTTED CRESCENTSzbRAYS AND DOTTED CRESCENTSzrDOUBLE CRESCENTSzrTRIPLE CRESCENT" ++
      "SvDOUBLE RINGzh WITH RAYSvWITH DOUBLE CRESCENTSzbTRIPLE CRESCENTSzbQUADRUPLE CRESCENTSzbS" ++
      "EPTUPLE CRESCENTSzbCIRCLES AND RAYSznTWO ENCLOSURESznFOUR ENCLOSURESiLETTER THREE-CIRCLE " ++
      "ALTERNATE IqWO-CIRCLE ALTERNATE IzmIpALTERNATE UiVOWEL SIGN ALTERNATE UzfU"),
    (0x11600,
      "aMODI LETTER AnAmInImUnUmVOCALIC RvRuLvLmEmAImOmAUmKAnHAmGAnHAmNGAmCAnHAmJAnHAmNYAmTTAoHA" ++
      "mDDAoHAmNNAmTAnHAmDAnHAmNAmPAnHAmBAnHAmMAmYAmRAmLAmVAmSHAnSAnAmHAmLLAfVOWEL SIGN AAqIrIqU" ++
      "rUqVOCALIC RzaRyLzaLqEqAIqOqAUfSIGN ANUSVARAkVISARGAmRAMAkARDHACANDRAfDANDAgOUBLE DANDAfA" ++
      "BBREVIATION SIGNfSIGN HUVA"),
    (0x11650, "fDIGIT ZEROlONElTWOmHREElFOURmIVElSIXmEVENlEIGHTlNINE"),
    (0x11660,
      "cNGOLIAN BIRGA WITH ORNAMENTkROTATED BIRGAkDOUBLE BIRGA WITH ORNAMENTkTRIPLE BIRGA WITH O" ++
      "RNAMENTkBIRGA WITH DOUBLE ORNAMENTkROTATED BIRGA WITH ORNAMENTzeDOUBLE ORNAMENTkINVERTED " ++
      "BIRGAy WITH DOUBLE ORNAMENTkSWIRL BIRGAv WITH ORNAMENTzcDOUBLE ORNAMENTkTURNED SWIRL BIRG" ++
      "A WITH DOUBLE ORNAMENT"),
    (0x11680,
      "aTAKRI LETTER AoAnIoInUoUnEnAInOnAUnKAoHAnGAoHAnNGAnCAoHAnJAoHAnNYAnTTApHAnDDApHAnNNAnTAo" ++
      "HAnDAoHAnNAnPAoHAnBAoHAnMAnYAnRAnLAnVAnSHAoAnHAnRRAgSIGN ANUSVARAlVISARGAgVOWEL SIGN AArI" ++
      "sIrUsUrErAIrOrAUgSIGN VIRAMAlNUKTAgLETTER ARCHAIC KHAgABBREVIATION SIGN"),
    (0x116C0, "gDIGIT ZEROmONEmTWOnHREEmFOURnIVEmSIXnEVENmEIGHTmNINE"),
    (0x11700,
      "aAHOM LETTER KAnHAmNGAnAmTAmALTERNATE TAmPAnHAmBAmMAmJAmCHAmTHAmRAmLAmSAmNYAmHAmAmDAnHAmG" ++
      "AmALTERNATE GAmGHAmBHAmJHAmALTERNATE BA"),
    (0x1171D,
      "fCONSONANT SIGN MEDIAL LAzcRAzcLIGATING RAfVOWEL SIGN ArAqIrIqUrUqEqAWqOqAIrMfSIGN KILLER"),
    (0x11730,
      "fDIGIT ZEROlONElTWOmHREElFOURmIVElSIXmEVENlEIGHTlNINEfNUMBER TENnWENTYfSIGN SMALL SECTION" ++
      "lECTIONkRULAIgYMBOL VIfLETTER CAmTTAoHAmDDAoHAmNNAmLLA"),
    (0x11800,
      "aDOGRA LETTER AoAnIoInUoUnEnAInOnAUnKAoHAnGAoHAnNGAnCAoHAnJAoHAnNYAnTTApHAnDDApHAnNNAnTAo" ++
      "HAnDAoHAnNAnPAoHAnBAoHAnMAnYAnRAnLAnVAnSHAoSAoAnHAnRRAgVOWEL SIGN AArIsIrUsUrVOCALIC RzbR" ++
      "rErAIrOrAUgSIGN ANUSVARAlVISARGAnRAMAlNUKTAgABBREVIATION SIGN"),
    (0x118A0,
      "aWARANG CITI CAPITAL LETTER NGAAzcAzcWIzcYUzdAzdOzcIIzcUUzcEzcOzcANGzcGAzcKOzcENYzcYUJzcU" ++
      "CzcENNzcODDzcTTEzcNUNGzcDAzcATzdMzcBUzcPUzcHIYOzdOLOzeRRzdARzcSSUUzdIIzcVIYOmSMALL LETTER" ++
      " NGAAzaAzaWIzaYUzbAzbOzaIIzaUUzaEzaOzaANGzaGAzaKOzaENYzaYUJzaUCzaENNzaODDzaTTEzaNUNGzaDAz" ++
      "aATzbMzaBUzaPUzaHIYOzbOLOzcRRzbARzaSSUUzbIIzaVIYOmDIGIT ZEROsONEsTWOtHREEsFOURtIVEsSIXtEV" ++
      "ENsEIGHTsNINEmNUMBER TENuWENTYuHIRTYtFORTYuIFTYtSIXTYuEVENTYtEIGHTYtNINETY"),
    (0x118FF, "mOMaDIVES AKURU LETTER AuAtIuItUuUtE"), (0x11909, "tO"),
    (0x1190C, "tKAuHAtGAuHAtNGAtCAuHAtJA"), (0x11915, "tNYAtTTA"),
    (0x11918,
      "tDDAvHAtNNAtTAuHAtDAuHAtNAtPAuHAtBAuHAtMAtYAuYAtRAtLAtVAtSHAuSAuAtHAtLLAtZAmVOWEL SIGN AA" ++
      "xIyIxUyUxE"),
    (0x11937, "xAIxO"),
    (0x1193B,
      "mSIGN ANUSVARArCANDRABINDUrHALANTAmVIRAMAmPREFIXED NASAL SIGNmMEDIAL YAmINITIAL RAmMEDIAL" ++
      " RAmSIGN NUKTAmDOUBLE DANDAmGAP FILLERmEND OF TEXT MARK"),
    (0x11950, "mDIGIT ZEROsONEsTWOtHREEsFOURtIVEsSIXtEVENsEIGHTsNINE"),
    (0x119A0, "aNANDINAGARI LETTER AuAtIuItUuUtVOCALIC RzdR"),
    (0x119AA,
      "tEtAItOtAUtKAuHAtGAuHAtNGAtCAuHAtJAuHAtNYAtTTAvHAtDDAvHAtNNAtTAuHAtDAuHAtNAtPAuHAtBAuHAtM" ++
      "AtYAtRAtLAtVAtSHAuSAuAtHAtLLAtRRAmVOWEL SIGN AAxIyIxUyUxVOCALIC RzhR"),
    (0x119DA,
      "xExAIxOxAUmSIGN ANUSVARArVISARGAtRAMArAVAGRAHArSIDDHAMmHEADSTROKEmVOWEL SIGN PRISHTHAMATR" ++
      "A E"),
    (0x11A00,
      "aZANABAZAR SQUARE LETTER ArVOWEL SIGN IzdUEzezdEzdOEzezdAIzeUzdREVERSED IxLENGTH MARKrLET" ++
      "TER KAzaHAyGAzaHAyNGAyCAzaHAyJAyNYAyTTAzbHAyDDAzbHAyNNAyTAzaHAyDAzaHAyNAyPAzaHAyBAzaHAyMA" ++
      "yTSAzbHAyDZAzbHAyZHAzaAy-AyYAyRAyLAyVAySHAzaSAzaAyHAyKSSArFINAL CONSONANT MARKrSIGN VIRAM" ++
      "AwCANDRABINDUzi WITH ORNAMENTzd WITH ORNAMENTwANUSVARAwVISARGArCLUSTER-INITIAL LETTER RAz" ++
      "aFINAL LETTER YAznRAznLAznVArINITIAL HEAD MARKrCLOSING HEAD MARKrMARK TSHEGwSHADwDOUBLE S" ++
      "HADwLONG TSHEGrINITIAL DOUBLE-LINED HEAD MARKrCLOSING DOUBLE-LINED HEAD MARKrSUBJOINER"),
    (0x11A50,
      "aSOYOMBO LETTER AiVOWEL SIGN ItUEutEtOuEtAIuUtVOCALIC RzcLoLENGTH MARKiLETTER KAqHApGAqHA" ++
      "pNGApCAqHApJAqHApNYApTTArHApDDArHApNNApTAqHApDAqHApNApPAqHApBAqHApMApTSArHApDZApZHAqAp-Ap" ++
      "YApRApLApVApSHAqSAqApHApKSSAiSIGN JIHVAMULIYAnUPADHMANIYAiCLUSTER-INITIAL LETTER RAzgLAzg" ++
      "SHAzhAiFINAL CONSONANT SIGN GzeKzeNGzeDzeNzeBzeMzeRzeLzeSHzfze-AiSIGN ANUSVARAnVISARGAiGE" ++
      "MINATION MARKiSUBJOINERiMARK TSHEGnSHADnDOUBLE SHADnPLUTAiHEAD MARK WITH MOON AND SUN AND" ++
      " TRIPLE FLAMEzpFLAMEzkiTERMINAL MARK-1w2"),
    (0x11AB0,
      "aCANADIAN SYLLABICS NATTILIK HIzfIzeOzfOzeAzfAzdSHRIzhIzgOzhOzgAzhAtSPEvIvOvAaPAU CIN HAU" ++
      " LETTER PAtKAtLAtMAtDAtZAtVAtNGAtHAtGAtKHAtSAtBAtCAtTAuHAtNAtPHAtRAtFAtCHAtAtEtItOtUuAtIA" ++
      "tFINAL PzaKzaTzaMzaNzaLzaWzaNGzaYmRISING TONE LONGxmSANDHI GLOTTAL STOPmRISING TONE LONG " ++
      "FINALyFINALmSANDHI GLOTTAL STOP FINALtTONE LONGxx LONG FINALyFINALmMID-LEVEL TONEmGLOTTAL" ++
      " STOP VARIANTmMID-LEVEL TONE LONG FINALzcFINALmLOW-FALLING TONE LONGzdmGLOTTAL STOPmLOW-F" ++
      "ALLING TONE LONG FINALzeFINALmGLOTTAL STOP FINAL"),
    (0x11C00, "aBHAIKSUKI LETTER AsArIsIrUsUrVOCALIC RzbRzaL"),
    (0x11C0A,
      "rErAIrOrAUrKAsHArGAsHArNGArCAsHArJAsHArNYArTTAtHArDDAtHArNNArTAsHArDAsHArNArPAsHArBAsHArM" ++
      "ArYArRArLArVArSHAsSAsArHAkVOWEL SIGN AAvIwIvUwUvVOCALIC RzfRzeL"),
    (0x11C38,
      "vEvAIvOvAUkSIGN CANDRABINDUpANUSVARApVISARGArRAMApAVAGRAHAkDANDAlOUBLE DANDAkWORD SEPARAT" ++
      "ORkGAP FILLER-1v2"),
    (0x11C50,
      "kDIGIT ZEROqONEqTWOrHREEqFOURrIVEqSIXrEVENqEIGHTqNINEkNUMBER ONErTWOsHREErFOURsIVErSIXsEV" ++
      "ENrEIGHTrNINErTENsWENTYsHIRTYrFORTYsIFTYrSIXTYsEVENTYrEIGHTYrNINETYkHUNDREDS UNIT MARK"),
    (0x11C70,
      "aMARCHEN HEAD MARKiMARK SHADiLETTER KAqHApGApNGApCAqHApJApNYApTAqHApDApNApPAqHApBApMApTSA" ++
      "rHApDZApWApZHAqAp-ApYApRApLApSHAqApHApA"),
    (0x11C92,
      "iSUBJOINED LETTER KAzbHAzaGAzaNGAzaCAzbHAzaJAzaNYAzaTAzbHAzaDAzaNAzaPAzbHAzaBAzaMAzaTSAzc" ++
      "HAzaDZAzaWAzaZHAzbA"),
    (0x11CA9, "zaYAzaRAzaLAzaSHAzbAzaHAzaAiVOWEL SIGN AAtItUtEtOiSIGN ANUSVARAnCANDRABINDU"),
    (0x11D00, "cSARAM GONDI LETTER AwAvIwIvUwUvE"), (0x11D08, "vAIvO"),
    (0x11D0B,
      "vAUvKAwHAvGAwHAvNGAvCAwHAvJAwHAvNYAvTTAxHAvDDAxHAvNNAvTAwHAvDAwHAvNAvPAwHAvBAwHAvMAvYAvRA" ++
      "vLAvVAvSHAwSAwAvHAvLLAvKSSAvJNYAvTRAoVOWEL SIGN AAzaIzbIzaUzbUzaVOCALIC R"),
    (0x11D3A, "zaE"), (0x11D3C, "zaAIzaO"),
    (0x11D3F, "zaAUoSIGN ANUSVARAtVISARGAtNUKTAtCANDRAtHALANTAoVIRAMAoREPHApA-KARA"),
    (0x11D50, "oDIGIT ZEROuONEuTWOvHREEuFOURvIVEuSIXvEVENuEIGHTuNINE"),
    (0x11D60, "aGUNJALA GONDI LETTER AwAvIwIvUwU"), (0x11D67, "vEEvAI"),
    (0x11D6A,
      "vOOvAUvYAvVAvBAwHAvMAvKAwHAvTAwHAvLAvGAwHAvDAwHAvNAvCAwHAvTTAxHAvLLAvJAwHAvDDAxHAvNGAvPAw" ++
      "HAvHAvRAvSAoVOWEL SIGN AAzaIzbIzaUzbU"),
    (0x11D90, "zaEEzaAI"), (0x11D93, "zaOOzaAUoSIGN ANUSVARAtVISARGAoVIRAMAoOM"),
    (0x11DA0, "oDIGIT ZEROuONEuTWOvHREEuFOURvIVEuSIXvEVENuEIGHTuNINE"),
    (0x11EE0,
      "aMAKASAR LETTER KApGApNGApPApBApMApTApDApNApCApJApNYApYApRApLApVApSApAiANGKAiVOWEL SIGN I" ++
      "tUtEtOiPASSIMBANGiEND OF SECTION"),
    (0x11FB0, "aLISU LETTER YHA"),
    (0x11FC0,
      "aTAMIL FRACTION ONE THREE-HUNDRED-AND-TWENTIETHtONE-HUNDRED-AND-SIXTIETHtEIGHTIETHtSIXTY-" ++
      "FOURTHtFORTIETHtTHIRTY-SECONDpTHREE EIGHTIETHSvSIXTY-FOURTHSpONE TWENTIETHtSIXTEENTH-1ze2" ++
      "tTENTHtEIGHTHpTHREE TWENTIETHSvSIXTEENTHSpONE FIFTHtQUARTERtHALF-1y2pTHREE QUARTERSpDOWNS" ++
      "CALING FACTOR KIIZHgSIGN NELlCEVITUlAAZHAAKKUlUZHAKKUlMUUVUZHAKKUlKURUNIlPATHAKKUlMUKKURU" ++
      "NIlKAACUlPANAMmONlVARAAKANlPAARAMlKUZHIlVELIgWET CULTIVATION SIGNgDRY CULTIVATION SIGNgLA" ++
      "ND SIGNgSALT PAN SIGNgTRADITIONAL CREDIT SIGNsNUMBER SIGNgCURRENT SIGNgAND ODD SIGNgSPENT" ++
      " SIGNgTOTAL SIGNgIN POSSESSION SIGNgSTARTING FROM SIGNhIGN MUTHALIYAlVAKAIYARAA"),
    (0x11FFF, "gPUNCTUATION END OF TEXT")]

end DocComments.Text.CharacterName
