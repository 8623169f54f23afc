import DocComments.Text.CharacterName.Table

/-!
# Names of characters: U+1D000 to U+1DFFF

The names of signs for music, mathematics and gestures.
-/

namespace DocComments.Text.CharacterName

/-- The names. -/
def written : NameTable :=
  [ (0x1D000,
      "aBYZANTINE MUSICAL SYMBOL PSILIzaDASEIAzaPERISPOMENIzaOXEIA EKFONITIKONzgDIPLIzaVAREIA EK" ++
      "FONITIKONzhDIPLIzaKATHISTIzaSYRMATIKIzaPARAKLITIKIzaYPOKRISISzj DIPLIzaKREMASTIzaAPESO EK" ++
      "FONITIKONzaEXO EKFONITIKONzaTELEIAzaKENTIMATAzaAPOSTROFOSzk DIPLIzaSYNEVMAzaTHITAzaOLIGON" ++
      " ARCHAIONzaGORGON ARCHAIONzaPSILONzaCHAMILONzaVATHYzaISON ARCHAIONzaKENTIMA ARCHAIONzhTA " ++
      "ARCHAIONzaSAXIMATAzaPARICHONzaSTAVROS APODEXIAzaOXEIAI ARCHAIONzaVAREIAI ARCHAIONzaAPODER" ++
      "MA ARCHAIONzdTHEMAzaKLASMAzaREVMAzaPIASMA ARCHAIONzaTINAGMAzaANATRICHISMAzaSEISMAzbYNAGMA" ++
      " ARCHAIONziMETA STAVROUzaOYRANISMA ARCHAIONzaTHEMAzaLEMOIzaDYOzaTRIAzbESSERAzaKRATIMATAza" ++
      "APESO EXO NEOzaFTHORA ARCHAIONzaIMIFTHORAzaTROMIKON ARCHAIONzaKATAVA TROMIKONzaPELASTONzb" ++
      "SIFISTONzaKONTEVMAzaCHOREVMA ARCHAIONzaRAPISMAzaPARAKALESMA ARCHAIONzfLITIKI ARCHAIONzaIC" ++
      "HADINzaNANAzaPETASMAzaKONTEVMA ALLOzaTROMIKON ALLOzaSTRAGGISMATAzaGRONTHISMATAzaISON NEOz" ++
      "aOLIGON NEOzbXEIA NEOzaPETASTIzaKOUFISMAzaPETASTOKOUFISMAzaKRATIMOKOUFISMAzaPELASTON NEOz" ++
      "aKENTIMATA NEO ANOzh NEO ANOzaYPSILIzaAPOSTROFOS NEOzjI SYNDESMOS NEOzaYPORROIzaKRATIMOYP" ++
      "ORROONzaELAFRONzaCHAMILIzaMIKRON ISONzaVAREIA NEOzaPIASMA NEOzbSIFISTON NEOzaOMALONzaANTI" ++
      "KENOMAzaLYGISMAzaPARAKLITIKI NEOzfALESMA NEOzaETERON PARAKALESMAzaKYLISMAzaANTIKENOKYLISM" ++
      "AzaTROMIKON NEOzaEKSTREPTONzaSYNAGMA NEOzcRMAzaCHOREVMA NEOzaEPEGERMAzaSEISMA NEOzaXIRON " ++
      "KLASMAzaTROMIKOPSIFISTONzaPSIFISTOLYGISMAzaTROMIKOLYGISMAzhPARAKALESMAzaPSIFISTOPARAKALES" ++
      "MAzaTROMIKOSYNAGMAzaPSIFISTOSYNAGMAzaGORGOSYNTHETONzaARGOSYNTHETONzaETERON ARGOSYNTHETONz" ++
      "aOYRANISMA NEOzaTHEMATISMOS ESOznXOzf APLOUNzdS KAI APOTHESzaKATAVASMAzaENDOFONONzaYFEN K" ++
      "ATOzfANOzaSTAVROSzaKLASMA ANOzaDIPLI ARCHAIONzaKRATIMA ARCHAIONzjLLOziNEOzaAPODERMA NEOzc" ++
      "LIzaDIPLIzaTRIPLIzbETRAPLIzaKORONISzaLEIMMA ENOS CHRONOUzhDYO CHRONONzhTRION CHRONONziESS" ++
      "ARON CHRONONzhIMISEOS CHRONOUzaGORGON NEO ANOzhPARESTIGMENON ARISTERAzvDEXIAzaDIGORGONzi " ++
      "PARESTIGMENON ARISTERA KATOzzhANOzxDEXIAzaTRIGORGONzaARGONzaIMIDIARGONzaDIARGONzaAGOGI PO" ++
      "LI ARGIzgARGOTERIzjIzgMETRIAziSIzgGORGIzkOTERIzgPOLI GORGIzaMARTYRIA PROTOS ICHOSzjALLI P" ++
      "ROTOS ICHOSzjDEYTEROS ICHOSzjALLI DEYTEROS ICHOSzjTRITOS ICHOSzmFONIASzkETARTOS ICHOSzsLE" ++
      "GETOS ICHOSzjLEGETOS ICHOSzjPLAGIOS ICHOSzaISAKIA TELOUS ICHIMATOSzaAPOSTROFOI TELOUS ICH" ++
      "IMATOSzaFANEROSIS TETRAFONIASzkMONOFONIASzkDIFONIASzaMARTYRIA VARYS ICHOSzjPROTOVARYS ICH" ++
      "OSzkLAGIOS TETARTOS ICHOSzaGORTHMIKON N APLOUNznDIPLOUNzaENARXIS KAI FTHORA VOUzaIMIFONON" ++
      "zeTHORONzaFTHORA ARCHAION DEYTEROU ICHOUzhDIATONIKI PAzrNANAzhNAOS ICHOSzhDIATONIKI DIzhS" ++
      "KLIRON DIATONON DIzhDIATONIKI KEzrZOzrNI KATOzuANOzhMALAKON CHROMA DIFONIASzwMONOFONIASzb" ++
      "HTORA SKLIRON CHROMA VASISzbTHORA SKLIRON CHROMA SYNAFIzhNENANOzaCHROA ZYGOSzgKLITONzgSPA" ++
      "THIzaFTHORA I YFESIS TETARTIMORIONzhENARMONIOS ANTIFONIAzaYFESIS TRITIMORIONzaDIESIS TRIT" ++
      "IMORIONziETARTIMORIONzhAPLI DYO DODEKATAzhMONOGRAMMOS TESSERA DODEKATAzhDIGRAMMOS EX DODE" ++
      "KATAzhTRIGRAMMOS OKTO DODEKATAzaYFESIS APLI DYO DODEKATAzhMONOGRAMMOS TESSERA DODEKATAzhD" ++
      "IGRAMMOS EX DODEKATAzhTRIGRAMMOS OKTO DODEKATAzaGENIKI DIESISzhYFESISzaDIASTOLI APLI MIKR" ++
      "IzpEGALIzjDIPLIzjTHESEOSzaSIMANSIS THESEOSzq DISIMOUzrTRISIMOUzsETRASIMOUzjARSEOSzp DISIM" ++
      "OUzqTRISIMOUzrETRASIMOUzaDIGRAMMA GGzcFTOGGOS OUzaSTIGMAzaARKTIKO PAziVOUziGAziDIziKEziZO" ++
      "ziNIzaKENTIMATA NEO MESOzh NEO MESOzhTA NEO KATOzh NEO KATOzbLASMA KATOzaGORGON NEO KATO"),
    (0x1D100,
      "aMUSICAL SYMBOL SINGLE BARLINEpDOUBLE BARLINEpFINAL BARLINEpREVERSE FINAL BARLINEpDASHED " ++
      "BARLINEpSHORT BARLINEpLEFT REPEAT SIGNpRIGHT REPEAT SIGNqEPEAT DOTSpDAL SEGNOr CAPOpSEGNO" ++
      "pCODApREPEATED FIGURE-1zg2zg3pFERMATAw BELOWpBREATH MARKpCAESURApBRACEtKETpONE-LINE STAFF" ++
      "pTWO-LINE STAFFqHREE-LINE STAFFpFOUR-LINE STAFFqIVE-LINE STAFFpSIX-LINE STAFFtSTRING FRET" ++
      "BOARDpFOUR-STRING FRETBOARDpG CLEFv OTTAVA ALTAzeBASSApC CLEFpF CLEFv OTTAVA ALTAzeBASSAp" ++
      "DRUM CLEF-1za2"),
    (0x1D129,
      "pMULTIPLE MEASURE RESTpDOUBLE SHARPwFLATpFLAT UPuDOWNpNATURAL UPxDOWNpSHARP UPvDOWNpQUART" ++
      "ER TONE SHARPzdFLATpCOMMON TIMEqUT TIMEpOTTAVA ALTAwBASSApQUINDICESIMA ALTAzdBASSApMULTI " ++
      "RESTpWHOLE RESTpHALF RESTpQUARTER RESTpEIGHTH RESTpSIXTEENTH RESTpTHIRTY-SECOND RESTpSIXT" ++
      "Y-FOURTH RESTpONE HUNDRED TWENTY-EIGHTH RESTpX NOTEHEADpPLUS NOTEHEADpCIRCLE X NOTEHEADpS" ++
      "QUARE NOTEHEAD WHITEzgBLACKpTRIANGLE NOTEHEAD UP WHITEzlBLACKziLEFT WHITEznBLACKziRIGHT W" ++
      "HITEzoBLACKziDOWN WHITEznBLACKziUP RIGHT WHITEzrBLACKpMOON NOTEHEAD WHITEzeBLACKpTRIANGLE" ++
      "-ROUND NOTEHEAD DOWN WHITEztBLACKpPARENTHESIS NOTEHEADpVOID NOTEHEADpNOTEHEAD BLACKqULL N" ++
      "OTEHEADpCLUSTER NOTEHEAD WHITEzhBLACKpBREVEpWHOLE NOTEpHALF NOTEpQUARTER NOTEpEIGHTH NOTE" ++
      "pSIXTEENTH NOTEpTHIRTY-SECOND NOTEpSIXTY-FOURTH NOTEpONE HUNDRED TWENTY-EIGHTH NOTEpCOMBI" ++
      "NING STEMzbPRECHGESANG STEMzaTREMOLO-1zi2zi3pFINGERED TREMOLO-1zh2zh3pCOMBINING AUGMENTAT" ++
      "ION DOTzaFLAG-1zf2zf3zf4zf5pBEGIN BEAMpEND BEAMpBEGIN TIEpEND TIEpBEGIN SLURpEND SLURpBEG" ++
      "IN PHRASEpEND PHRASEpCOMBINING ACCENTzaSTACCATOzaTENUTOzaSTACCATISSIMOzaMARCATOzh-STACCAT" ++
      "OzaACCENT-STACCATOzaLOUREpARPEGGIATO UPzbDOWNpCOMBINING DOITzaRIPzaFLIPzaSMEARzaBENDzaDOU" ++
      "BLE TONGUEzaTRIPLE TONGUEpRINFORZANDOpSUBITOpZpPIANOpMEZZOpFORTEpCRESCENDOpDECRESCENDOpGR" ++
      "ACE NOTE SLASHzbNO SLASHpTRqURNpINVERTED TURNpTURN SLASHuUPpORNAMENT STROKE-1zg2zg3zg4zg5" ++
      "zg6zg7zg8zg9zg10zh1pHAUPTSTIMMEpNEBENSTIMMEpEND OF STIMMEpDEGREE SLASHpCOMBINING DOWN BOW" ++
      "zaUP BOWzaHARMONICzaSNAP PIZZICATOpPEDAL MARKvUP MARKpHALF PEDAL MARKpGLISSANDO UPzaDOWNp" ++
      "WITH FINGERNAILSpDAMPt ALLpMAXIMApLONGApBREVISpSEMIBREVIS WHITEzbBLACKpMINIMAv BLACKpSEMI" ++
      "MINIMA WHITEzbBLACKpFUSA WHITEuBLACKpLONGA PERFECTA RESTvIMPERFECTA RESTpBREVIS RESTpSEMI" ++
      "BREVIS RESTpMINIMA RESTpSEMIMINIMA RESTpTEMPUS PERFECTUM CUM PROLATIONE PERFECTAzwIMPERFE" ++
      "CTAzwPERFECTA DIMINUTION-1wIMPERFECTUM CUM PROLATIONE PERFECTAzyIMPERFECTAzzj DIMINUTION-" ++
      "1zzv2zzv3pCROIXpGREGORIAN C CLEFzaF CLEFpSQUARE BpVIRGApPODATUSpCLIVISpSCANDICUSpCLIMACUS" ++
      "pTORCULUSpPORRECTUSy FLEXUSpSCANDICUS FLEXUSpTORCULUS RESUPINUSpPES SUBPUNCTISpKIEVAN C C" ++
      "LEFwEND OF PIECEwFINAL NOTEwRECITATIVE MARKwWHOLE NOTEwHALF NOTEwQUARTER NOTE STEM DOWNzp" ++
      "UPwEIGHTH NOTE STEM DOWNzoUPwFLAT SIGNpSORIpKORON"),
    (0x1D200,
      "aGREEK VOCAL NOTATION SYMBOL-1zd2zd3zd4zd5zd6zd7zd8zd9zd10ze1ze2ze3ze4ze5ze6ze7ze8ze9zd20" ++
      "ze1ze2ze3ze4zd50ze1ze2ze3ze4gINSTRUMENTAL NOTATION SYMBOL-1zk2zk4zk5zk7zk8zk11zl2zl3zl4zl" ++
      "7zl8zl9zk23zl4zl5zl6zl7zl9zk30zl2zl6zl7zl8zl9zk40zl2zl3zl5zl7zl8zl9zk50zl1zl2zl3zl4aCOMBI" ++
      "NING GREEK MUSICAL TRISEMEzaETRASEMEyPENTASEMEaGREEK MUSICAL LEIMMA"),
    (0x1D2E0,
      "aMAYAN NUMERAL ZEROoONEoTWOpHREEoFOURpIVEoSIXpEVENoEIGHToNINEoTENoELEVENoTWELVEpHIRTEENoF" ++
      "OURTEENpIFTEENoSIXTEENpEVENTEENoEIGHTEENoNINETEEN"),
    (0x1D300,
      "bONOGRAM FOR EARTHaDIGRAM FOR HEAVENLY EARTHmUMAN EARTHlEARTHLY HEAVENuUMANqaTETRAGRAM FO" ++
      "R CENTREoFULL CIRCLEoMIREDoBARRIERoKEEPING SMALLoCONTRARIETYoASCENToOPPOSITIONoBRANCHING " ++
      "OUToDEFECTIVENESS OR DISTORTIONpIVERGENCEoYOUTHFULNESSoINCREASEoPENETRATIONoREACHoCONTACT" ++
      "oHOLDING BACKoWAITINGoFOLLOWINGoADVANCEoRELEASEqSISTANCEoEASEoJOYoCONTENTIONoENDEAVOURoDU" ++
      "TIESoCHANGEoDECISIVENESSoBOLD RESOLUTIONoPACKINGoLEGIONoCLOSENESSoKINSHIPoGATHERINGoSTREN" ++
      "GTHoPURITYoFULLNESSoRESIDENCEoLAW OR MODELoRESPONSEoGOING TO MEEToENCOUNTERSoSTOVEoGREATN" ++
      "ESSoENLARGEMENToPATTERNoRITUALoFLIGHToVASTNESS OR WASTINGoCONSTANCYoMEASUREoETERNITYoUNIT" ++
      "YoDIMINISHMENToCLOSED MOUTHoGUARDEDNESSpATHERING INoMASSINGoACCUMULATIONoEMBELLISHMENToDO" ++
      "UBToWATCHoSINKINGoINNERoDEPARTUREpARKENINGpIMMINGoEXHAUSTIONoSEVERANCEpTOPPAGEoHARDNESSoC" ++
      "OMPLETIONpLOSUREoFAILUREoAGGRAVATIONoCOMPLIANCEoON THE VERGEoDIFFICULTIESoLABOURINGoFOSTE" ++
      "RING"),
    (0x1D360,
      "aCOUNTING ROD UNIT DIGIT ONEyTWOzaHREEyFOURzaIVEySIXzaEVENyEIGHTyNINEnTENS DIGIT ONEyTWOz" ++
      "aHREEyFOURzaIVEySIXzaEVENyEIGHTyNINEaIDEOGRAPHIC TALLY MARK ONExTWOyHREExFOURyIVEaTALLY M" ++
      "ARK ONElFIVE"),
    (0x1D400,
      "aMATHEMATICAL BOLD CAPITAL AzbBzbCzbDzbEzbFzbGzbHzbIzbJzbKzbLzbMzbNzbOzbPzbQzbRzbSzbTzbUz" ++
      "bVzbWzbXzbYzbZsSMALL AyByCyDyEyFyGyHyIyJyKyLyMyNyOyPyQyRySyTyUyVyWyXyYyZnITALIC CAPITAL A" ++
      "zdBzdCzdDzdEzdFzdGzdHzdIzdJzdKzdLzdMzdNzdOzdPzdQzdRzdSzdTzdUzdVzdWzdXzdYzdZuSMALL AzbBzbC" ++
      "zbDzbEzbFzbG"),
    (0x1D456,
      "zbIzbJzbKzbLzbMzbNzbOzbPzbQzbRzbSzbTzbUzbVzbWzbXzbYzbZnBOLD ITALIC CAPITAL AziBziCziDziEz" ++
      "iFziGziHziIziJziKziLziMziNziOziPziQziRziSziTziUziVziWziXziYziZzaSMALL AzgBzgCzgDzgEzgFzgG" ++
      "zgHzgIzgJzgKzgLzgMzgNzgOzgPzgQzgRzgSzgTzgUzgVzgWzgXzgYzgZnSCRIPT CAPITAL A"),
    (0x1D49E, "zdCzdD"), (0x1D4A2, "zdG"), (0x1D4A5, "zdJzdK"), (0x1D4A9, "zdNzdOzdPzdQ"),
    (0x1D4AE, "zdSzdTzdUzdVzdWzdXzdYzdZuSMALL AzbBzbCzbD"), (0x1D4BB, "zbF"),
    (0x1D4BD, "zbHzbIzbJzbKzbLzbMzbN"),
    (0x1D4C5,
      "zbPzbQzbRzbSzbTzbUzbVzbWzbXzbYzbZnBOLD SCRIPT CAPITAL AziBziCziDziEziFziGziHziIziJziKziLz" ++
      "iMziNziOziPziQziRziSziTziUziVziWziXziYziZzaSMALL AzgBzgCzgDzgEzgFzgGzgHzgIzgJzgKzgLzgMzgN" ++
      "zgOzgPzgQzgRzgSzgTzgUzgVzgWzgXzgYzgZnFRAKTUR CAPITAL AzeB"),
    (0x1D507, "zeDzeEzeFzeG"), (0x1D50D, "zeJzeKzeLzeMzeNzeOzePzeQ"),
    (0x1D516, "zeSzeTzeUzeVzeWzeXzeY"),
    (0x1D51E,
      "vSMALL AzcBzcCzcDzcEzcFzcGzcHzcIzcJzcKzcLzcMzcNzcOzcPzcQzcRzcSzcTzcUzcVzcWzcXzcYzcZnDOUBL" ++
      "E-STRUCK CAPITAL AzkB"),
    (0x1D53B, "zkDzkEzkFzkG"), (0x1D540, "zkIzkJzkKzkLzkM"), (0x1D546, "zkO"),
    (0x1D54A, "zkSzkTzkUzkVzkWzkXzkY"),
    (0x1D552,
      "zcSMALL AziBziCziDziEziFziGziHziIziJziKziLziMziNziOziPziQziRziSziTziUziVziWziXziYziZnBOLD" ++
      " FRAKTUR CAPITAL AzjBzjCzjDzjEzjFzjGzjHzjIzjJzjKzjLzjMzjNzjOzjPzjQzjRzjSzjTzjUzjVzjWzjXzj" ++
      "YzjZzbSMALL AzhBzhCzhDzhEzhFzhGzhHzhIzhJzhKzhLzhMzhNzhOzhPzhQzhRzhSzhTzhUzhVzhWzhXzhYzhZn" ++
      "SANS-SERIF CAPITAL AzhBzhCzhDzhEzhFzhGzhHzhIzhJzhKzhLzhMzhNzhOzhPzhQzhRzhSzhTzhUzhVzhWzhX" ++
      "zhYzhZySMALL AzfBzfCzfDzfEzfFzfGzfHzfIzfJzfKzfLzfMzfNzfOzfPzfQzfRzfSzfTzfUzfVzfWzfXzfYzfZ" ++
      "yBOLD CAPITAL AzmBzmCzmDzmEzmFzmGzmHzmIzmJzmKzmLzmMzmNzmOzmPzmQzmRzmSzmTzmUzmVzmWzmXzmYzm" ++
      "ZzeSMALL AzkBzkCzkDzkEzkFzkGzkHzkIzkJzkKzkLzkMzkNzkOzkPzkQzkRzkSzkTzkUzkVzkWzkXzkYzkZyITA" ++
      "LIC CAPITAL AzoBzoCzoDzoEzoFzoGzoHzoIzoJzoKzoLzoMzoNzoOzoPzoQzoRzoSzoTzoUzoVzoWzoXzoYzoZz" ++
      "gSMALL AzmBzmCzmDzmEzmFzmGzmHzmIzmJzmKzmLzmMzmNzmOzmPzmQzmRzmSzmTzmUzmVzmWzmXzmYzmZyBOLD " ++
      "ITALIC CAPITAL AztBztCztDztEztFztGztHztIztJztKztLztMztNztOztPztQztRztSztTztUztVztWztXztYz" ++
      "tZzlSMALL AzrBzrCzrDzrEzrFzrGzrHzrIzrJzrKzrLzrMzrNzrOzrPzrQzrRzrSzrTzrUzrVzrWzrXzrYzrZnMO" ++
      "NOSPACE CAPITAL AzgBzgCzgDzgEzgFzgGzgHzgIzgJzgKzgLzgMzgNzgOzgPzgQzgRzgSzgTzgUzgVzgWzgXzgY" ++
      "zgZxSMALL AzeBzeCzeDzeEzeFzeGzeHzeIzeJzeKzeLzeMzeNzeOzePzeQzeRzeSzeTzeUzeVzeWzeXzeYzeZnIT" ++
      "ALIC SMALL DOTLESS IzjJ"),
    (0x1D6A8,
      "nBOLD CAPITAL ALPHAzbBETAzbGAMMAzbDELTAzbEPSILONzbZETAzbETAzbTHETAzbIOTAzbKAPPAzbLAMDAzbM" ++
      "UzbNUzbXIzbOMICRONzbPIzbRHOzbTHETA SYMBOLzbSIGMAzbTAUzbUPSILONzbPHIzbCHIzbPSIzbOMEGAsNABL" ++
      "AsSMALL ALPHAyBETAyGAMMAyDELTAyEPSILONyZETAyETAyTHETAyIOTAyKAPPAyLAMDAyMUyNUyXIyOMICRONyP" ++
      "IyRHOyFINAL SIGMAySIGMAyTAUyUPSILONyPHIyCHIyPSIyOMEGAsPARTIAL DIFFERENTIALsEPSILON SYMBOL" ++
      "sTHETA SYMBOLsKAPPA SYMBOLsPHI SYMBOLsRHO SYMBOLsPI SYMBOLnITALIC CAPITAL ALPHAzdBETAzdGA" ++
      "MMAzdDELTAzdEPSILONzdZETAzdETAzdTHETAzdIOTAzdKAPPAzdLAMDAzdMUzdNUzdXIzdOMICRONzdPIzdRHOzd" ++
      "THETA SYMBOLzdSIGMAzdTAUzdUPSILONzdPHIzdCHIzdPSIzdOMEGAuNABLAuSMALL ALPHAzbBETAzbGAMMAzbD" ++
      "ELTAzbEPSILONzbZETAzbETAzbTHETAzbIOTAzbKAPPAzbLAMDAzbMUzbNUzbXIzbOMICRONzbPIzbRHOzbFINAL " ++
      "SIGMAzbSIGMAzbTAUzbUPSILONzbPHIzbCHIzbPSIzbOMEGAuPARTIAL DIFFERENTIALuEPSILON SYMBOLuTHET" ++
      "A SYMBOLuKAPPA SYMBOLuPHI SYMBOLuRHO SYMBOLuPI SYMBOLnBOLD ITALIC CAPITAL ALPHAziBETAziGA" ++
      "MMAziDELTAziEPSILONziZETAziETAziTHETAziIOTAziKAPPAziLAMDAziMUziNUziXIziOMICRONziPIziRHOzi" ++
      "THETA SYMBOLziSIGMAziTAUziUPSILONziPHIziCHIziPSIziOMEGAzaNABLAzaSMALL ALPHAzgBETAzgGAMMAz" ++
      "gDELTAzgEPSILONzgZETAzgETAzgTHETAzgIOTAzgKAPPAzgLAMDAzgMUzgNUzgXIzgOMICRONzgPIzgRHOzgFINA" ++
      "L SIGMAzgSIGMAzgTAUzgUPSILONzgPHIzgCHIzgPSIzgOMEGAzaPARTIAL DIFFERENTIALzaEPSILON SYMBOLz" ++
      "aTHETA SYMBOLzaKAPPA SYMBOLzaPHI SYMBOLzaRHO SYMBOLzaPI SYMBOLnSANS-SERIF BOLD CAPITAL AL" ++
      "PHAzmBETAzmGAMMAzmDELTAzmEPSILONzmZETAzmETAzmTHETAzmIOTAzmKAPPAzmLAMDAzmMUzmNUzmXIzmOMICR" ++
      "ONzmPIzmRHOzmTHETA SYMBOLzmSIGMAzmTAUzmUPSILONzmPHIzmCHIzmPSIzmOMEGAzeNABLAzeSMALL ALPHAz" ++
      "kBETAzkGAMMAzkDELTAzkEPSILONzkZETAzkETAzkTHETAzkIOTAzkKAPPAzkLAMDAzkMUzkNUzkXIzkOMICRONzk" ++
      "PIzkRHOzkFINAL SIGMAzkSIGMAzkTAUzkUPSILONzkPHIzkCHIzkPSIzkOMEGAzePARTIAL DIFFERENTIALzeEP" ++
      "SILON SYMBOLzeTHETA SYMBOLzeKAPPA SYMBOLzePHI SYMBOLzeRHO SYMBOLzePI SYMBOLzeITALIC CAPIT" ++
      "AL ALPHAztBETAztGAMMAztDELTAztEPSILONztZETAztETAztTHETAztIOTAztKAPPAztLAMDAztMUztNUztXIzt" ++
      "OMICRONztPIztRHOztTHETA SYMBOLztSIGMAztTAUztUPSILONztPHIztCHIztPSIztOMEGAzlNABLAzlSMALL A" ++
      "LPHAzrBETAzrGAMMAzrDELTAzrEPSILONzrZETAzrETAzrTHETAzrIOTAzrKAPPAzrLAMDAzrMUzrNUzrXIzrOMIC" ++
      "RONzrPIzrRHOzrFINAL SIGMAzrSIGMAzrTAUzrUPSILONzrPHIzrCHIzrPSIzrOMEGAzlPARTIAL DIFFERENTIA" ++
      "LzlEPSILON SYMBOLzlTHETA SYMBOLzlKAPPA SYMBOLzlPHI SYMBOLzlRHO SYMBOLzlPI SYMBOLnBOLD CAP" ++
      "ITAL DIGAMMAsSMALL DIGAMMA"),
    (0x1D7CE,
      "sDIGIT ZEROyONEyTWOzaHREEyFOURzaIVEySIXzaEVENyEIGHTyNINEnDOUBLE-STRUCK DIGIT ZEROziONEziT" ++
      "WOzjHREEziFOURzjIVEziSIXzjEVENziEIGHTziNINEnSANS-SERIF DIGIT ZEROzfONEzfTWOzgHREEzfFOURzg" ++
      "IVEzfSIXzgEVENzfEIGHTzfNINEyBOLD DIGIT ZEROzkONEzkTWOzlHREEzkFOURzlIVEzkSIXzlEVENzkEIGHTz" ++
      "kNINEnMONOSPACE DIGIT ZEROzeONEzeTWOzfHREEzeFOURzfIVEzeSIXzfEVENzeEIGHTzeNINEaSIGNWRITING" ++
      " HAND-FIST INDEXrCIRCLE INDEXsUP INDEXrOVAL INDEXrHINGE INDEXrANGLE INDEXrFIST INDEX BENT" ++
      "rCIRCLE INDEX BENTrFIST THUMB UNDER INDEX BENTwINDEX RAISED KNUCKLEzdCUPPEDzdHINGEDzj LOW" ++
      "rCIRCLE INDEX HINGErFIST INDEX MIDDLErCIRCLE INDEX MIDDLErFIST INDEX MIDDLE BENTzkRAISED " ++
      "KNUCKLESzkHINGEDzdUP MIDDLE HINGEDzdHINGED MIDDLE UPzdMIDDLE CONJOINEDzt INDEX BENTzuMIDD" ++
      "LE BENTzuCUPPEDzuHINGEDzlROSSEDrCIRCLE INDEX MIDDLE CROSSEDrFIST MIDDLE BENT OVER INDEXwI" ++
      "NDEX BENT OVER MIDDLEzdMIDDLE THUMBrCIRCLE INDEX MIDDLE THUMBrFIST INDEX MIDDLE STRAIGHT " ++
      "THUMB BENTzkBENT THUMB STRAIGHTzkTHUMB BENTzkHINGED SPREAD THUMB SIDEzdUP MIDDLE HINGED T" ++
      "HUMB SIDEzzbCONJOINEDzdHINGED MIDDLE UP THUMB SIDEzdMIDDLE UP SPREAD THUMB FORWARDzkTHUMB" ++
      " CUPPEDzrIRCLEDzqHOOKEDzrINGEDwTHUMB BETWEEN INDEX MIDDLE STRAIGHTwINDEX MIDDLE CONJOINED" ++
      " THUMB SIDEzzf CONJOINEDzzgBENTwMIDDLE THUMB HOOKED INDEX UPwINDEX THUMB HOOKED MIDDLE UP" ++
      "zdMIDDLE CONJOINED HINGED THUMB SIDEzlROSSED THUMB SIDEzlONJOINED THUMB FORWARDzuCUPPED T" ++
      "HUMB FORWARDwMIDDLE THUMB CUPPED INDEX UPwINDEX THUMB CUPPED MIDDLE UPwMIDDLE THUMB CIRCL" ++
      "ED INDEX UPzyHINGEDwINDEX THUMB ANGLED OUT MIDDLE UPzqIN MIDDLE UPzjCIRCLED MIDDLE UPzdMI" ++
      "DDLE THUMB CONJOINED HINGEDzqANGLED OUTzwwMIDDLE THUMB ANGLED OUT INDEX UPzzcCROSSEDzrIND" ++
      "EX UPwINDEX THUMB HOOKED MIDDLE HINGEDsLAT FOUR FINGERSzj BENTzkHINGEDzkCONJOINEDzt SPLIT" ++
      "rCLAW FOUR FINGERS CONJOINEDrFIST FOUR FINGERS CONJOINED BENTrHINGE FOUR FINGERS CONJOINE" ++
      "DrFLAT FIVE FINGERS SPREADwHEEL FIVE FINGERS SPREADwFIVE FINGERS SPREAD FOUR BENTwHEEL FI" ++
      "VE FINGERS SPREAD FOUR BENTwFIVE FINGERS SPREAD BENTwHEEL FIVE FINGERS SPREAD BENTwFIVE F" ++
      "INGERS SPREAD THUMB FORWARDrCUP FIVE FINGERS SPREADzp OPENrHINGE FIVE FINGERS SPREAD OPEN" ++
      "rOVAL FIVE FINGERS SPREADrFLAT FIVE FINGERS SPREAD HINGEDzx THUMB SIDEzyNO THUMBvv BETWEE" ++
      "N PALM FACINGSwHEELwTHUMB SIDEwHEEL THUMB SIDEwTHUMB BENTzdFORWARDwSPLIT INDEX THUMB SIDE" ++
      "zdCENTREzj THUMB SIDEzu BENTzdLITTLErCLAWv THUMB SIDEwNO THUMBwTHUMB FORWARDrHOOK CURLICU" ++
      "EvrCUP OPENuu OPEN THUMB SIDEvTHUMB SIDEvOPEN NO THUMBvNO THUMBvOPEN THUMB FORWARDvTHUMB " ++
      "FORWARDtRLICUE OPENzasIRCLErOVALv THUMB SIDEwNO THUMBwTHUMB FORWARDrHINGE OPENzc THUMB FO" ++
      "RWARDww SMALLxOPEN THUMB SIDExTHUMB SIDExOPEN NO THUMBxNO THUMBxTHUMB SIDE TOUCHING INDEX" ++
      "zeBETWEEN MIDDLE RINGrANGLErFIST INDEX MIDDLE RINGrCIRCLE INDEX MIDDLE RINGrHINGE INDEX M" ++
      "IDDLE RINGrANGLE INDEX MIDDLE RINGrHINGE LITTLErFIST INDEX MIDDLE RING BENTzpCONJOINEDrHI" ++
      "NGE INDEX MIDDLE RING CONJOINEDrFIST LITTLE DOWNzi RIPPLE STRAIGHTzqCURVEDzjOTHERS CIRCLE" ++
      "DzeUPwTHUMB UNDER LITTLE UPrCIRCLE LITTLE UPrOVAL LITTLE UPrANGLE LITTLE UPrFIST LITTLE R" ++
      "AISED KNUCKLEzeBENTzeTOUCHES THUMBzfHUMBrHINGE LITTLE THUMBrFIST LITTLE INDEX THUMBrHINGE" ++
      " LITTLE INDEX THUMBrANGLE LITTLE INDEX THUMB INDEX THUMB OUTzzdrFIST LITTLE INDEXrCIRCLE " ++
      "LITTLE INDEXrHINGE LITTLE INDEXrANGLE LITTLE INDEXrFIST INDEX MIDDLE LITTLErCIRCLE INDEX " ++
      "MIDDLE LITTLErHINGE INDEX MIDDLE LITTLExRINGrANGLE INDEX MIDDLE LITTLErFIST INDEX MIDDLE " ++
      "CROSS LITTLErCIRCLE INDEX MIDDLE CROSS LITTLErFIST RING DOWNrHINGE RING DOWN INDEX THUMB " ++
      "HOOK MIDDLErANGLE RING DOWN MIDDLE THUMB INDEX CROSSrFIST RING UPzcRAISED KNUCKLEzcLITTLE" ++
      "rCIRCLE RING LITTLErOVAL RING LITTLErANGLE RING LITTLErFIST RING MIDDLEzi CONJOINEDzjRAIS" ++
      "ED KNUCKLESzcINDEXzcTHUMBrHOOK RING THUMBrFIST INDEX RING LITTLErCIRCLE INDEX RING LITTLE" ++
      "sURLICUE INDEX RING LITTLE ONrHOOK INDEX RING LITTLE OUTzpINzpUNDERrCUP INDEX RING LITTLE" ++
      "rHINGE INDEX RING LITTLErANGLE INDEX RING LITTLE OUTzprFIST MIDDLE DOWNrHINGE MIDDLErFIST" ++
      " MIDDLE UPrCIRCLE MIDDLE UPrFIST MIDDLE RAISED KNUCKLEzeUP THUMB SIDErHOOK MIDDLE THUMBrF" ++
      "IST MIDDLE THUMB LITTLEzeLITTLEzeRING LITTLErCIRCLE MIDDLE RING LITTLEsURLICUE MIDDLE RIN" ++
      "G LITTLE ONtP MIDDLE RING LITTLErHINGE MIDDLE RING LITTLErANGLE MIDDLE RING LITTLE OUTzrI" ++
      "NzqrCIRCLE MIDDLE RING LITTLE BENTsLAW MIDDLE RING LITTLE CONJOINEDzza SIDErHOOK MIDDLE R" ++
      "ING LITTLE CONJOINED OUTzzbINzzasINGE INDEX HINGEDrFIST INDEX THUMB SIDErHINGE INDEX THUM" ++
      "B SIDErFIST INDEX THUMB SIDE THUMB DIAGONALzuCONJOINEDzuBENTzoINDEX BENTzoBOTH BENTzoINDE" ++
      "X HINGEzjFORWARD INDEX STRAIGHTzxBENTzjHOOKzjCURLICUEzmVE THUMB INSIDErCLAW INDEX THUMB C" ++
      "URVE THUMB INSIDErFIST INDEX THUMB CURVE THUMB UNDERzkIRCLErCUP INDEX THUMBzh OPENrHINGE " ++
      "INDEX THUMB OPENzkLARGEzjzj SMALLrANGLE INDEX THUMB OUTzkINzjrFIST THUMBzc HEELzdSIDE DIA" ++
      "GONALziCONJOINEDziBENTzdFORWARDzdBETWEEN INDEX MIDDLEzlMIDDLE RINGzlRING LITTLEzdUNDER TW" ++
      "O FINGERSzdOVER TWO FINGERSzdUNDER THREE FINGERSzjFOUR FINGERSzdOVER FOUR RAISED KNUCKLES" ++
      "vv HEELmTOUCH SINGLEsMULTIPLEsBETWEENmGRASP SINGLEsMULTIPLEsBETWEENmSTRIKE SINGLEtMULTIPL" ++
      "EtBETWEENmBRUSH SINGLEsMULTIPLEsBETWEENmRUB SINGLEqMULTIPLEqBETWEENmSURFACE SYMBOLSuBETWE" ++
      "ENnQUEEZE LARGE SINGLEuSMALL SINGLEuLARGE MULTIPLEuSMALL MULTIPLEvEQUENTIALmFLICK LARGE S" ++
      "INGLEsSMALL SINGLEsLARGE MULTIPLEsSMALL MULTIPLEtEQUENTIALmSQUEEZE FLICK ALTERNATINGmMOVE" ++
      "MENT-HINGE UP DOWN LARGEzkSMALLzfSEQUENTIALzcDOWN SEQUENTIALzcUP DOWN ALTERNATING LARGEzw" ++
      "SMALLzcSIDE TO SIDE SCISSORSvWALLPLANE FINGER CONTACTvFLOORPLANE FINGER CONTACTvWALLPLANE" ++
      " SINGLE STRAIGHT SMALLzwMEDIUMzwLARGEzzcSTznWRIST FLEXzgDOUBLE STRAIGHTznWRIST FLEXznALTE" ++
      "RNATINGzy WRIST FLEXzgCROSSzgTRIPLE STRAIGHT MOVEMENTznWRIST FLEXznALTERNATINGzy WRIST FL" ++
      "EXzgBEND SMALLzlMEDIUMzlLARGEzgCORNER SMALLznMEDIUMznLARGEznROTATIONzhHECK SMALLzmMEDIUMz" ++
      "mLARGEzgBOX SMALLzkMEDIUMzkLARGEzgZIGZAG SMALLznMEDIUMznLARGEzgPEAKS SMALLzmMEDIUMzmLARGE" ++
      "mTRAVEL-WALLPLANE ROTATION-WALLPLANE SINGLEzxDOUBLEzxALTERNATINGznFLOORPLANE SINGLEzyDOUB" ++
      "LEzyALTERNATINGzeSHAKINGzeARM SPIRAL SINGLEzpDOUBLEzpTRIPLEmMOVEMENT-DIAGONAL AWAY SMALLz" ++
      "kMEDIUMzkLARGEzpSTzfTOWARDS SMALLznMEDIUMznLARGEzsSTzfBETWEEN AWAY SMALLzsMEDIUMzsLARGEzx" ++
      "STznTOWARDS SMALLzvMEDIUMzvLARGEzzbSTvFLOORPLANE SINGLE STRAIGHT SMALLzxMEDIUMzxLARGEzzdS" ++
      "TzoWRIST FLEXzhDOUBLE STRAIGHTzoWRIST FLEXzoALTERNATINGzza WRIST FLEXzhCROSSzhTRIPLE STRA" ++
      "IGHT MOVEMENTzoWRIST FLEXzoALTERNATING MOVEMENTzzbWRIST FLEXzhBENDzhCORNER SMALLzoMEDIUMz" ++
      "oLARGEziHECKzhBOX SMALLzlMEDIUMzlLARGEzhZIGZAG SMALLzoMEDIUMzoLARGEzhPEAKS SMALLznMEDIUMz" ++
      "nLARGEmTRAVEL-FLOORPLANE ROTATION-FLOORPLANE SINGLEzzaDOUBLEzzaALTERNATINGzoWALLPLANE SIN" ++
      "GLEzyDOUBLEzyALTERNATINGzfSHAKINGmMOVEMENT-WALLPLANE CURVE QUARTER SMALLzuMEDIUMzuLARGEzz" ++
      "aSTzmHALF-CIRCLE SMALLzyMEDIUMzyLARGEzzeSTzmTHREE-QUARTER CIRCLE SMALLzziMEDIUMzgHUMP SMA" ++
      "LLzlMEDIUMzlLARGEzgLOOP SMALLzlMEDIUMzlLARGEzlSMALL DOUBLEzgWAVE CURVE DOUBLE SMALLzyMEDI" ++
      "UMzyLARGEzrTRIPLE SMALLzyMEDIUMzyLARGEzgCURVE THEN STRAIGHTzlD CROSS SMALLztMEDIUMmROTATI" ++
      "ON-WALLPLANE SINGLEzgDOUBLEzgALTERNATEmMOVEMENT-WALLPLANE SHAKINGzgCURVE HITTING FRONT WA" ++
      "LLzgHUMP HITTING FRONT WALLzgLOOP HITTING FRONT WALLzgWAVE HITTING FRONT WALLmROTATION-WA" ++
      "LLPLANE SINGLE HITTING FRONT WALLzgDOUBLE HITTING FRONT WALLzgALTERNATING HITTING FRONT W" ++
      "ALLmMOVEMENT-WALLPLANE CURVE HITTING CHESTzgHUMP HITTING CHESTzgLOOP HITTING CHESTzgWAVE " ++
      "HITTING CHESTmROTATION-WALLPLANE SINGLE HITTING CHESTzgDOUBLE HITTING CHESTzgALTERNATING " ++
      "HITTING CHESTmMOVEMENT-WALLPLANE WAVE DIAGONAL PATH SMALLzzaMEDIUMzzaLARGEvFLOORPLANE CUR" ++
      "VE HITTING CEILING SMALLzzeLARGEzhHUMP HITTING CEILING SMALL DOUBLEzzdLARGE DOUBLEzzdSMAL" ++
      "L TRIPLEzzdLARGE TRIPLEzhLOOP HITTING CEILING SMALL SINGLEzzdLARGE SINGLEzzdSMALL DOUBLEz" ++
      "zdLARGE DOUBLEzhWAVE HITTING CEILING SMALLzzdLARGEmROTATION-FLOORPLANE SINGLE HITTING CEI" ++
      "LINGzhDOUBLE HITTING CEILINGzhALTERNATING HITTING CEILINGmMOVEMENT-FLOORPLANE CURVE HITTI" ++
      "NG FLOOR SMALLzzcLARGEzhHUMP HITTING FLOOR SMALL DOUBLEzzbLARGE DOUBLEzzbTRIPLE SMALL TRI" ++
      "PLEzziLARGE TRIPLEzhLOOP HITTING FLOOR SMALL SINGLEzzbLARGE SINGLEzzbSMALL DOUBLEzzbLARGE" ++
      " DOUBLEzhWAVE HITTING FLOOR SMALLzzbLARGEmROTATION-FLOORPLANE SINGLE HITTING FLOORzhDOUBL" ++
      "E HITTING FLOORzhALTERNATING HITTING FLOORmMOVEMENT-FLOORPLANE CURVE SMALLznMEDIUMznLARGE" ++
      "zsSTznCOMBINEDzhHUMP SMALLzhLOOP SMALLzhWAVE SNAKEznMALLzmLARGEmROTATION-FLOORPLANE SINGL" ++
      "EzhDOUBLEzhALTERNATINGmMOVEMENT-FLOORPLANE SHAKING PARALLELvWALLPLANE ARM CIRCLE SMALL SI" ++
      "NGLEzrMEDIUM SINGLEzrSMALL DOUBLEzrMEDIUM DOUBLEvFLOORPLANE ARM CIRCLE HITTING WALL SMALL" ++
      " SINGLEzzgMEDIUM SINGLEzzgLARGE SINGLEzzgSMALL DOUBLEzzgMEDIUM DOUBLEzzgLARGE DOUBLEvWALL" ++
      "PLANE WRIST CIRCLE FRONT SINGLEzzaDOUBLEvFLOORPLANE WRIST CIRCLE HITTING WALL SINGLEzziDO" ++
      "UBLEvWALLPLANE FINGER CIRCLES SINGLEzvDOUBLEvFLOORPLANE FINGER CIRCLES HITTING WALL SINGL" ++
      "EzzkDOUBLEmDYNAMIC ARROWHEAD SMALLzfLARGEuFASTuSLOWuTENSEuRELAXEDuSIMULTANEOUSzh ALTERNAT" ++
      "INGuEVERY OTHER TIMEuGRADUALmHEADq RIMrMOVEMENT-WALLPLANE STRAIGHTzlTILTzbFLOORPLANE STRA" ++
      "IGHTzbWALLPLANE CURVEzbFLOORPLANE CURVEza CIRCLEmFACE DIRECTION POSITION NOSE FORWARD TIL" ++
      "TINGzqUP OR DOWNzzb TILTINGmEYEBROWS STRAIGHT UPzfNEUTRALzfDOWNmDREAMY EYEBROWS NEUTRAL D" ++
      "OWNzdDOWN NEUTRALzdUP NEUTRALzdNEUTRAL UPmFOREHEAD NEUTRALvCONTACTvWRINKLEDmEYES OPENrSQU" ++
      "EEZEDrCLOSEDp BLINK SINGLEwMULTIPLEpS HALF OPENrWIDE OPENrHALF CLOSEDrWIDENING MOVEMENTp " ++
      "WINKpLASHES UPwDOWNwFLUTTERINGpGAZE-WALLPLANE STRAIGHTzn DOUBLEzoALTERNATINGuFLOORPLANE S" ++
      "TRAIGHTzo DOUBLEzpALTERNATINGuWALLPLANE CURVEDuFLOORPLANE CURVEDuWALLPLANE CIRCLINGmCHEEK" ++
      "S PUFFEDtNEUTRALtSUCKEDmTENSE CHEEKS HIGHzaMIDDLEzaLOWmEARSmNOSE NEUTRALrCONTACTrWRINKLES" ++
      "sIGGLESmAIR BLOWING OUTqSUCKING INqBLOW SMALL ROTATIONSqSUCK SMALL ROTATIONSmBREATH INHAL" ++
      "EtEXHALEmMOUTH CLOSED NEUTRALzaFORWARDzaCONTACTsSMILEx WRINKLEDyOPENsFROWNx WRINKLEDyOPEN" ++
      "sOPEN CIRCLExFORWARDxWRINKLEDxOVALzc WRINKLEDzdYAWNxRECTANGLEzh WRINKLEDziYAWNsKISSw FORW" ++
      "ARDxWRINKLEDsTENSEx FORWARDySUCKEDmLIPS PRESSED TOGETHERp LOWER OVER UPPERqUPPER OVER LOW" ++
      "ERmMOUTH CORNERSsWRINKLES SINGLEzcDOUBLEmTONGUE STICKING OUT FARtLICKING LIPStTIP BETWEEN" ++
      " LIPSxTOUCHING INSIDE MOUTHtINSIDE MOUTH RELAXEDtMOVES AGAINST CHEEKtCENTRE STICKING OUTz" ++
      "bINSIDE MOUTHnEETHr MOVEMENTsON TONGUEzc MOVEMENTvLIPSza MOVEMENTsBITE LIPSmMOVEMENT-WALL" ++
      "PLANE JAWvFLOORPLANE JAWmNECKmHAIRmEXCITEMENTmSHOULDER HIP SPINEzaPOSITIONSmWALLPLANE SHO" ++
      "ULDER HIP MOVEmFLOORPLANE SHOULDER HIP MOVEmSHOULDER TILTING FROM WAISTmTORSO-WALLPLANE S" ++
      "TRAIGHT STRETCHzdCURVED BENDsFLOORPLANE TWISTINGmUPPER BODY TILTING FROM HIP JOINTSmLIMB " ++
      "COMBINATIONrLENGTH-1y2y3y4y5y6y7mFINGERmLOCATION-WALLPLANE SPACEvFLOORPLANE SPACEu HEIGHT" ++
      "vWIDTHvDEPTHvHEAD NECKvTORSOvLIMBS DIGITSmCOMMAmFULL STOPmSEMICOLONmCOLONmPARENTHESIS"),
    (0x1DA9B, "mFILL MODIFIER-2zb3zb4zb5zb6"),
    (0x1DAA1, "mROTATION MODIFIER-2zf3zf4zf5zf6zf7zf8zf9zf10zg1zg2zg3zg4zg5zg6"),
    (0x1DF00,
      "aLATIN SMALL LETTER FENG DIGRAPH WITH TRILLtREVERSED SCRIPT GgLETTER SMALL CAPITAL TURNED" ++
      " GgSMALL LETTER REVERSED KgLETTER SMALL CAPITAL L WITH BELTgSMALL LETTER LEZH WITH RETROF" ++
      "LEX HOOKtTURNED Y WITH BELTtREVERSED ENGtTURNED R WITH LONG LEG AND RETROFLEX HOOKu WITH " ++
      "HOOK AND RETROFLEX HOOKgLETTER RETROFLEX CLICK WITH RETROFLEX HOOKgSMALL LETTER ESH WITH " ++
      "DOUBLE BARzn AND CURLtTURNED T WITH CURLgLETTER INVERTED GLOTTAL STOP WITH CURLnSTRETCHED" ++
      " C WITH CURLoMALL CAPITAL TURNED KgSMALL LETTER L WITH FISHHOOKtDEZH DIGRAPH WITH PALATAL" ++
      " HOOKtL WITH BELT AND PALATAL HOOKtENG WITH PALATAL HOOKtTURNED R WITH PALATAL HOOKtR WIT" ++
      "H FISHHOOK AND PALATAL HOOKtTESH DIGRAPH WITH PALATAL HOOKtEZH WITH PALATAL HOOKtDEZH DIG" ++
      "RAPH WITH RETROFLEX HOOKtI WITH STROKE AND RETROFLEX HOOKtO WITH RETROFLEX HOOKtTESH DIGR" ++
      "APH WITH RETROFLEX HOOKtC WITH RETROFLEX HOOKtS WITH CURL")]

end DocComments.Text.CharacterName
