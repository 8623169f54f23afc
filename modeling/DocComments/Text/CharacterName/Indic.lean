import DocComments.Text.CharacterName.Table

/-!
# Names of characters: U+0900 to U+0FFF

The names of the scripts from Devanagari to Tibetan.
-/

namespace DocComments.Text.CharacterName

/-- The names. -/
def indic : NameTable :=
  [ (0x900,
      "aDEVANAGARI SIGN INVERTED CANDRABINDUqCANDRABINDUqANUSVARAqVISARGAlLETTER SHORT AsAtAsItI" ++
      "sUtUsVOCALIC RzbLsCANDRA EsSHORT EsEsAIsCANDRA OsSHORT OsOsAUsKAtHAsGAtHAsNGAsCAtHAsJAtHA" ++
      "sNYAsTTAuHAsDDAuHAsNNAsTAtHAsDAtHAsNAtNNAsPAtHAsBAtHAsMAsYAsRAtRAsLAtLAuLAsVAsSHAtSAtAsHA" ++
      "lVOWEL SIGN OExOElSIGN NUKTAqAVAGRAHAlVOWEL SIGN AAwIxIwUxUwVOCALIC RzgRwCANDRA EwSHORT E" ++
      "wEwAIwCANDRA OwSHORT OwOwAUlSIGN VIRAMAlVOWEL SIGN PRISHTHAMATRA EwAWlOMlSTRESS SIGN UDAT" ++
      "TAxANUDATTAlGRAVE ACCENTlACUTE ACCENTlVOWEL SIGN CANDRA LONG EwUExUElLETTER QAsKHHAsGHHAs" ++
      "ZAsDDDHAsRHAsFAsYYAsVOCALIC RRzbLLlVOWEL SIGN VOCALIC LzgLlDANDAmOUBLE DANDAmIGIT ZEROrON" ++
      "ErTWOsHREErFOURsIVErSIXsEVENrEIGHTrNINElABBREVIATION SIGNlSIGN HIGH SPACING DOTlLETTER CA" ++
      "NDRA AsOEtOEsAWsUEtUEsMARWARI DDAsZHAsHEAVY YAsGGAsJJAsGLOTTAL STOPsDDDAsBBAaBENGALI ANJI" ++
      "iSIGN CANDRABINDUnANUSVARAnVISARGA"),
    (0x985, "iLETTER AqApIqIpUqUpVOCALIC RxL"), (0x98F, "pEpAI"),
    (0x993, "pOpAUpKAqHApGAqHApNGApCAqHApJAqHApNYApTTArHApDDArHApNNApTAqHApDAqHApNA"),
    (0x9AA, "pPAqHApBAqHApMApYApRA"), (0x9B2, "pLA"), (0x9B6, "pSHAqSAqApHA"),
    (0x9BC, "iSIGN NUKTAnAVAGRAHAiVOWEL SIGN AAtIuItUuUtVOCALIC RzdR"), (0x9C7, "tEtAI"),
    (0x9CB, "tOtAUiSIGN VIRAMAiLETTER KHANDA TA"), (0x9D7, "iAU LENGTH MARK"),
    (0x9DC, "iLETTER RRAqHA"), (0x9DF, "pYYApVOCALIC RRxLLiVOWEL SIGN VOCALIC LzdL"),
    (0x9E6,
      "iDIGIT ZEROoONEoTWOpHREEoFOURpIVEoSIXpEVENoEIGHToNINEiLETTER RA WITH MIDDLE DIAGONALxLOWE" ++
      "R DIAGONALiRUPEE MARKoSIGNiCURRENCY NUMERATOR ONEzcTWOzdHREEzcFOURzcONE LESS THAN THE DEN" ++
      "OMINATORrDENOMINATOR SIXTEENiISSHARiGANDA MARKiLETTER VEDIC ANUSVARAiABBREVIATION SIGNiSA" ++
      "NDHI MARK"),
    (0xA01, "aGURMUKHI SIGN ADAK BINDIoBINDIoVISARGA"), (0xA05, "jLETTER ArAqIrIqUrU"),
    (0xA0F, "qEEqAI"),
    (0xA13, "qOOqAUqKArHAqGArHAqNGAqCArHAqJArHAqNYAqTTAsHAqDDAsHAqNNAqTArHAqDArHAqNA"),
    (0xA2A, "qPArHAqBArHAqMAqYAqRA"), (0xA32, "qLArLA"), (0xA35, "qVAqSHA"), (0xA38, "rAqHA"),
    (0xA3C, "jSIGN NUKTA"), (0xA3E, "jVOWEL SIGN AAuIvIuUvU"), (0xA47, "uEEuAI"),
    (0xA4B, "uOOuAUjSIGN VIRAMA"), (0xA51, "oUDAAT"), (0xA59, "jLETTER KHHAqGHHAqZAqRRA"),
    (0xA5E, "qFA"),
    (0xA66,
      "jDIGIT ZEROpONEpTWOqHREEpFOURqIVEpSIXqEVENpEIGHTpNINEjTIPPIjADDAKjIRIjURAjEK ONKARjSIGN Y" ++
      "AKASHjABBREVIATION SIGN"),
    (0xA81, "cJARATI SIGN CANDRABINDUoANUSVARAoVISARGA"),
    (0xA85, "jLETTER ArAqIrIqUrUqVOCALIC RyLjVOWEL CANDRA E"),
    (0xA8F, "jLETTER EqAIjVOWEL CANDRA O"),
    (0xA93, "jLETTER OqAUqKArHAqGArHAqNGAqCArHAqJArHAqNYAqTTAsHAqDDAsHAqNNAqTArHAqDArHAqNA"),
    (0xAAA, "qPArHAqBArHAqMAqYAqRA"), (0xAB2, "qLArLA"), (0xAB5, "qVAqSHArSArAqHA"),
    (0xABC, "jSIGN NUKTAoAVAGRAHAjVOWEL SIGN AAuIvIuUvUuVOCALIC RzeRuCANDRA E"),
    (0xAC7, "uEuAIuCANDRA O"), (0xACB, "uOuAUjSIGN VIRAMA"), (0xAD0, "jOM"),
    (0xAE0, "jLETTER VOCALIC RRyLLjVOWEL SIGN VOCALIC LzeL"),
    (0xAE6,
      "jDIGIT ZEROpONEpTWOqHREEpFOURqIVEpSIXqEVENpEIGHTpNINEjABBREVIATION SIGNjRUPEE SIGN"),
    (0xAF9,
      "jLETTER ZHAjSIGN SUKUNpHADDAoMADDAHoTHREE-DOT NUKTA ABOVEoCIRCLE NUKTA ABOVEoTWO-CIRCLE N" ++
      "UKTA ABOVE"),
    (0xB01, "aORIYA SIGN CANDRABINDUlANUSVARAlVISARGA"),
    (0xB05, "gLETTER AoAnIoInUoUnVOCALIC RvL"), (0xB0F, "nEnAI"),
    (0xB13, "nOnAUnKAoHAnGAoHAnNGAnCAoHAnJAoHAnNYAnTTApHAnDDApHAnNNAnTAoHAnDAoHAnNA"),
    (0xB2A, "nPAoHAnBAoHAnMAnYAnRA"), (0xB32, "nLAoLA"), (0xB35, "nVAnSHAoSAoAnHA"),
    (0xB3C, "gSIGN NUKTAlAVAGRAHAgVOWEL SIGN AArIsIrUsUrVOCALIC RzbR"), (0xB47, "rErAI"),
    (0xB4B, "rOrAUgSIGN VIRAMA"), (0xB55, "lOVERLINEgAI LENGTH MARKhU LENGTH MARK"),
    (0xB5C, "gLETTER RRAoHA"), (0xB5F, "nYYAnVOCALIC RRvLLgVOWEL SIGN VOCALIC LzbL"),
    (0xB66,
      "gDIGIT ZEROmONEmTWOnHREEmFOURnIVEmSIXnEVENmEIGHTmNINEgISSHARgLETTER WAgFRACTION ONE QUART" ++
      "ERtHALFpTHREE QUARTERSpONE SIXTEENTHtEIGHTHpTHREE SIXTEENTHS"),
    (0xB82, "aTAMIL SIGN ANUSVARAlVISARGA"), (0xB85, "gLETTER AoAnIoInUoU"), (0xB8E, "nEoEnAI"),
    (0xB92, "nOoOnAUnKA"), (0xB99, "nNGAnCA"), (0xB9C, "nJA"), (0xB9E, "nNYAnTTA"),
    (0xBA3, "nNNAnTA"), (0xBA8, "nNAoNNAnPA"), (0xBAE, "nMAnYAnRAoRAnLAoLApLAnVAnSHAoSAoAnHA"),
    (0xBBE, "gVOWEL SIGN AArIsIrUsU"), (0xBC6, "rEsErAI"), (0xBCA, "rOsOrAUgSIGN VIRAMA"),
    (0xBD0, "gOM"), (0xBD7, "gAU LENGTH MARK"),
    (0xBE6,
      "gDIGIT ZEROmONEmTWOnHREEmFOURnIVEmSIXnEVENmEIGHTmNINEgNUMBER TENnONE HUNDREDrTHOUSANDgDAY" ++
      " SIGNgMONTH SIGNgYEAR SIGNgDEBIT SIGNgCREDIT SIGNgAS ABOVE SIGNgRUPEE SIGNgNUMBER SIGN"),
    (0xC00,
      "bELUGU SIGN COMBINING CANDRABINDU ABOVEnANDRABINDUmANUSVARAmVISARGAmCOMBINING ANUSVARA AB" ++
      "OVEhLETTER ApAoIpIoUpUoVOCALIC RwL"),
    (0xC0E, "oEpEoAI"),
    (0xC12, "oOpOoAUoKApHAoGApHAoNGAoCApHAoJApHAoNYAoTTAqHAoDDAqHAoNNAoTApHAoDApHAoNA"),
    (0xC2A, "oPApHAoBApHAoMAoYAoRApRAoLApLAqLAoVAoSHApSApAoHA"),
    (0xC3C, "hSIGN NUKTAmAVAGRAHAhVOWEL SIGN AAsItIsUtUsVOCALIC RzcR"), (0xC46, "sEtEsAI"),
    (0xC4A, "sOtOsAUhSIGN VIRAMA"), (0xC55, "hLENGTH MARKhAI LENGTH MARK"),
    (0xC58, "hLETTER TSAoDZAoRRRA"), (0xC5D, "oNAKAARA POLLU"),
    (0xC60, "oVOCALIC RRwLLhVOWEL SIGN VOCALIC LzcL"),
    (0xC66, "hDIGIT ZEROnONEnTWOoHREEnFOURoIVEnSIXoEVENnEIGHTnNINE"),
    (0xC77,
      "hSIGN SIDDHAMhFRACTION DIGIT ZERO FOR ODD POWERS OF FOURwONE FOR ODD POWERS OF FOURwTWO F" ++
      "OR ODD POWERS OF FOURxHREE FOR ODD POWERS OF FOURwONE FOR EVEN POWERS OF FOURwTWO FOR EVE" ++
      "N POWERS OF FOURxHREE FOR EVEN POWERS OF FOURhSIGN TUUMUaKANNADA SIGN SPACING CANDRABINDU" ++
      "nCANDRABINDUnANUSVARAnVISARGAnSIDDHAMiLETTER AqApIqIpUqUpVOCALIC RxL"),
    (0xC8E, "pEqEpAI"),
    (0xC92, "pOqOpAUpKAqHApGAqHApNGApCAqHApJAqHApNYApTTArHApDDArHApNNApTAqHApDAqHApNA"),
    (0xCAA, "pPAqHApBAqHApMApYApRAqRApLAqLA"), (0xCB5, "pVApSHAqSAqApHA"),
    (0xCBC, "iSIGN NUKTAnAVAGRAHAiVOWEL SIGN AAtIuItUuUtVOCALIC RzdR"), (0xCC6, "tEuEtAI"),
    (0xCCA, "tOuOtAUiSIGN VIRAMA"), (0xCD5, "iLENGTH MARKiAI LENGTH MARK"),
    (0xCDD, "iLETTER NAKAARA POLLUpFA"), (0xCE0, "pVOCALIC RRxLLiVOWEL SIGN VOCALIC LzdL"),
    (0xCE6, "iDIGIT ZEROoONEoTWOpHREEoFOURpIVEoSIXpEVENoEIGHToNINE"),
    (0xCF1, "iSIGN JIHVAMULIYAnUPADHMANIYA"),
    (0xD00,
      "aMALAYALAM SIGN COMBINING ANUSVARA ABOVEqANDRABINDUpANUSVARApVISARGAkLETTER VEDIC ANUSVAR" ++
      "ArAsArIsIrUsUrVOCALIC RzaL"),
    (0xD0E, "rEsErAI"),
    (0xD12,
      "rOsOrAUrKAsHArGAsHArNGArCAsHArJAsHArNYArTTAtHArDDAtHArNNArTAsHArDAsHArNAsNNArPAsHArBAsHAr" ++
      "MArYArRAsRArLAsLAtLArVArSHAsSAsArHArTTTAkSIGN VERTICAL BAR VIRAMApCIRCULAR VIRAMApAVAGRAH" ++
      "AkVOWEL SIGN AAvIwIvUwUvVOCALIC RzfR"),
    (0xD46, "vEwEvAI"), (0xD4A, "vOwOvAUkSIGN VIRAMAkLETTER DOT REPHkSIGN PARA"),
    (0xD54,
      "kLETTER CHILLU MyYyLLLkAU LENGTH MARKkFRACTION ONE ONE-HUNDRED-AND-SIXTIETHxFORTIETHtTHRE" ++
      "E EIGHTIETHStONE TWENTIETHyENTHtTHREE TWENTIETHStONE FIFTHkLETTER ARCHAIC IIrVOCALIC RRza" ++
      "LLkVOWEL SIGN VOCALIC LzfL"),
    (0xD66,
      "kDIGIT ZEROqONEqTWOrHREEqFOURrIVEqSIXrEVENqEIGHTqNINEkNUMBER TENrONE HUNDREDvTHOUSANDkFRA" ++
      "CTION ONE QUARTERxHALFtTHREE QUARTERStONE SIXTEENTHxEIGHTHtTHREE SIXTEENTHSkDATE MARKkLET" ++
      "TER CHILLU NNzayRRyLzaLyK"),
    (0xD81, "aSINHALA SIGN CANDRABINDUnANUSVARAYAnVISARGAYA"),
    (0xD85,
      "iLETTER AYANNAqAYANNAqEYANNArEYANNApIYANNAqIYANNApUYANNAqUYANNApIRUYANNAsUYANNAqLUYANNAsU" ++
      "YANNApEYANNAqEYANNApAIYANNApOYANNAqOYANNApAUYANNA"),
    (0xD9A,
      "qLPAPRAANA KAYANNApMAHAAPRAANA KAYANNApALPAPRAANA GAYANNApMAHAAPRAANA GAYANNApKANTAJA NAA" ++
      "SIKYAYApSANYAKA GAYANNApALPAPRAANA CAYANNApMAHAAPRAANA CAYANNApALPAPRAANA JAYANNApMAHAAPR" ++
      "AANA JAYANNApTAALUJA NAASIKYAYAxSANYOOGA NAAKSIKYAYApSANYAKA JAYANNApALPAPRAANA TTAYANNAp" ++
      "MAHAAPRAANA TTAYANNApALPAPRAANA DDAYANNApMAHAAPRAANA DDAYANNAqUURDHAJA NAYANNApSANYAKA DD" ++
      "AYANNApALPAPRAANA TAYANNApMAHAAPRAANA TAYANNApALPAPRAANA DAYANNApMAHAAPRAANA DAYANNApDANT" ++
      "AJA NAYANNA"),
    (0xDB3,
      "pSANYAKA DAYANNApALPAPRAANA PAYANNApMAHAAPRAANA PAYANNApALPAPRAANA BAYANNApMAHAAPRAANA BA" ++
      "YANNArYANNApAMBA BAYANNApYAYANNApRAYANNA"),
    (0xDBD, "pDANTAJA LAYANNA"),
    (0xDC0,
      "pVAYANNApTAALUJA SAYANNApMUURDHAJA SAYANNApDANTAJA SAYANNApHAYANNApMUURDHAJA LAYANNApFAYA" ++
      "NNA"),
    (0xDCA, "iSIGN AL-LAKUNA"),
    (0xDCF,
      "iVOWEL SIGN AELA-PILLAtKETTI AEDA-PILLAtDIGA AEDA-PILLAtKETTI IS-PILLAtDIGA IS-PILLAtKETT" ++
      "I PAA-PILLA"),
    (0xDD6, "tDIGA PAA-PILLA"),
    (0xDD8,
      "tGAETTA-PILLAtKOMBUVAtDIGA KOMBUVAtKOMBU DEKAyVA HAA AELA-PILLAzgDIGA AELA-PILLAzgGAYANUK" ++
      "ITTAtGAYANUKITTA"),
    (0xDE6, "iLITH DIGIT ZEROtONEtTWOuHREEtFOURuIVEtSIXuEVENtEIGHTtNINE"),
    (0xDF2, "iVOWEL SIGN DIGA GAETTA-PILLAzbYANUKITTAiPUNCTUATION KUNDDALIYA"),
    (0xE01,
      "aTHAI CHARACTER KO KAIqHO KHAIvUATvWAIvONtRAKHANGpNGO NGUpCHO CHANvINGvANGpSO SOpCHO CHOE" ++
      "pYO YINGpDO CHADApTO PATAKqHO THANtNANGMONTHOtPHUTHAOpNO NENpDO DEKpTO TAOqHO THUNGvAHANv" ++
      "ONGpNO NUpBO BAIMAIpPO PLAqHO PHUNGpFO FApPHO PHANpFO FANpPHO SAMPHAOpMO MApYO YAKpRO RUA" ++
      "qUpLO LINGqUpWO WAENpSO SALAsRUSIsSUApHO HIPpLO CHULApO ANGpHO NOKHUKpPAIYANNOIpSARA ApMA" ++
      "I HAN-AKATpSARA AAvMuIvIuUEwEvvUpPHINTHU"),
    (0xE3F,
      "gURRENCY SYMBOL BAHTgHARACTER SARA EuAEuOuAI MAIMUANzcALAIpLAKKHANGYAOpMAIYAMOKsTAIKHUs E" ++
      "KtTHOuRItCHATTAWApTHANTHAKHATpNIKHAHITpYAMAKKANpFONGMANfDIGIT ZEROlONElTWOmHREElFOURmIVEl" ++
      "SIXmEVENlEIGHTlNINEfCHARACTER ANGKHANKHUpKHOMUT"),
    (0xE81, "aLAO LETTER KOmHO SUNG"), (0xE84, "pTAM"),
    (0xE86, "lPALI GHAlNGOlCOlPALI CHAlSO TAM"),
    (0xE8C,
      "lPALI JHAlNYOlPALI NYAqTTAsHAqDDAsHAqNNAlDOlTOmHO SUNGpTAMlPALI DHAlNOlBOlPOmHO SUNGlFO T" ++
      "AMlPHO TAMlFO SUNGlPALI BHAlMOlYOlLO LING"),
    (0xEA5, "pOOT"),
    (0xEA7,
      "lWOlSANSKRIT SHAvSAmO SUNGlHO SUNGlPALI LLAlOlHO TAMeELLIPSISeVOWEL SIGN ApMAI KANpAAqMpI" ++
      "qIpYqYpUqUeSIGN PALI VIRAMAeVOWEL SIGN MAI KONeSEMIVOWEL SIGN LOtNYO"),
    (0xEC0, "eVOWEL SIGN EqIpOpAYqI"), (0xEC6, "eKO LA"),
    (0xEC8, "eTONE MAI EKnTHOoInCATAWAeCANCELLATION MARKeNIGGAHITA"),
    (0xED0, "eDIGIT ZEROkONEkTWOlHREEkFOURlIVEkSIXlEVENkEIGHTkNINE"),
    (0xEDC, "eHO NOhMOeLETTER KHMU GOqNYO"),
    (0xF00,
      "aTIBETAN SYLLABLE OMiMARK GTER YIG MGO TRUNCATED Azb-UM RNAM BCAD MAzfGTER TSHEG MAnINITI" ++
      "AL YIG MGO MDUN MAnCLOSING YIG MGO SGAB MAoARET YIG MGO PHUR SHAD MAnYIG MGO TSHEG SHAD M" ++
      "AnSBRUL SHADnBSKUR YIG MGOoKA- SHOG YIG MGOnINTERSYLLABIC TSHEGnDELIMITER TSHEG BSTARnSHA" ++
      "DnNYIS SHADnTSHEG SHADnNYIS TSHEG SHADnRIN CHEN SPUNGS SHADoGYA GRAM SHADnCARET -DZUD RTA" ++
      "GS ME LONG CANnGTER TSHEGiLOGOTYPE SIGN CHAD RTAGSwLHAG RTAGSiASTROLOGICAL SIGN SGRA GCAN" ++
      " -CHAR RTAGSzb-KHYUD PAzbSDONG TSHUGSiSIGN RDEL DKAR GCIGyNYISySUMsNAG GCIGxNYISsDKAR RDE" ++
      "L NAGiDIGIT ZEROoONEoTWOpHREEoFOURpIVEoSIXpEVENoEIGHToNINEoHALF ONEtTWOuHREEtFOURuIVEtSIX" ++
      "uEVENtEIGHTtNINEtZEROiMARK BSDUS RTAGSnNGAS BZUNG NYI ZLAnCARET -DZUD RTAGS BZHI MIG CANn" ++
      "NGAS BZUNG SGOR RTAGSnCHE MGOnTSA -PHRUnGUG RTAGS GYONzaASnANG KHANG GYONzaASiSIGN YAR TS" ++
      "HESnMAR TSHESiLETTER KAqHApGAqHApNGApCAqHApJA"),
    (0xF49,
      "pNYApTTArHApDDArHApNNApTAqHApDAqHApNApPAqHApBAqHApMApTSArHApDZArHApWApZHAqAp-ApYApRApLApS" ++
      "HAqSAqApHApApKSSApFIXED-FORM RApKKApRRA"),
    (0xF71,
      "iVOWEL SIGN AAtIuItUuUtVOCALIC RzdRzcLzdLtEuEtOuOiSIGN RJES SU NGA ROoNAM BCADiVOWEL SIGN" ++
      " REVERSED IzeIiSIGN NYI ZLA NAA DAnSNA LDANiMARK HALANTAnPALUTAiSIGN LCI RTAGSnYANG RTAGS" ++
      "nLCE TSA CANnMCHU CANnGRU CAN RGYINGSrMED RGYINGSnINVERTED MCHU CANjUBJOINED SIGN LCE TSA" ++
      " CANxMCHU CANxINVERTED MCHU CANsLETTER KAzbHAzaGAzbHAzaNGAzaCAzbHAzaJA"),
    (0xF99,
      "zaNYAzaTTAzcHAzaDDAzcHAzaNNAzaTAzbHAzaDAzbHAzaNAzaPAzbHAzaBAzbHAzaMAzaTSAzcHAzaDZAzcHAzaW" ++
      "AzaZHAzbAza-AzaYAzaRAzaLAzaSHAzbSAzbAzaHAzaAzaKSSAzaFIXED-FORM WAzlYAzlRA"),
    (0xFBE,
      "iKU RU KHAr BZHI MIG CANiCANTILLATION SIGN HEAVY BEATzbLIGHT BEATzbCANG TE-UzbSBUB -CHALi" ++
      "SYMBOL DRIL BUpRDO RJEpPADMA GDANpRDO RJE RGYA GRAMpPHUR PApNOR BUv NYIS -KHYILwGSUM -KHY" ++
      "ILwBZHI -KHYIL"),
    (0xFCE,
      "jIGN RDEL NAG RDEL DKARwGSUMiMARK BSKA- SHOG GI MGO RGYANnMNYAM YIG GI MGO RGYANnNYIS TSH" ++
      "EGnINITIAL BRDA RNYING YIG MGO MDUN MAnCLOSING BRDA RNYING YIG MGO SGAB MAaRIGHT-FACING S" ++
      "VASTI SIGNaLEFT-FACING SVASTI SIGNaRIGHT-FACING SVASTI SIGN WITH DOTSaLEFT-FACING SVASTI " ++
      "SIGN WITH DOTSaTIBETAN MARK LEADING MCHAN RTAGSnTRAILING MCHAN RTAGS")]

end DocComments.Text.CharacterName
