import DocComments.Text.CharacterName.Table

/-!
# Names of characters: U+F900 to U+FFFF

The names of forms of characters that are there for the sake of other sets.
-/

namespace DocComments.Text.CharacterName

/-- The names. -/
def compatibility : NameTable :=
  [ (0xFB00, "aLATIN SMALL LIGATURE FFwIwLwFIxLvLONG S TvST"),
    (0xFB13, "aARMENIAN SMALL LIGATURE MEN NOWzdECHzdINIyVEW NOWyMEN XEH"),
    (0xFB1D,
      "aHEBREW LETTER YOD WITH HIRIQhPOINT JUDEO-SPANISH VARIKAhLIGATURE YIDDISH YOD YOD PATAHiE" ++
      "TTER ALTERNATIVE AYINoWIDE ALEFtDALETtHEtKAFtLAMEDtFINAL MEMtRESHtTAVoALTERNATIVE PLUS SI" ++
      "GNoSHIN WITH SHIN DOTzaIN DOTyDAGESH AND SHIN DOTzlIN DOToALEF WITH PATAHyQAMATSyMAPIQoBE" ++
      "T WITH DAGESHoGIMEL WITH DAGESHoDALET WITH DAGESHoHE WITH MAPIQoVAV WITH DAGESHoZAYIN WIT" ++
      "H DAGESH"),
    (0xFB38,
      "oTET WITH DAGESHoYOD WITH DAGESHoFINAL KAF WITH DAGESHoKAF WITH DAGESHoLAMED WITH DAGESH"),
    (0xFB3E, "oMEM WITH DAGESH"), (0xFB40, "oNUN WITH DAGESHoSAMEKH WITH DAGESH"),
    (0xFB43, "oFINAL PE WITH DAGESHoPE WITH DAGESH"),
    (0xFB46,
      "oTSADI WITH DAGESHoQOF WITH DAGESHoRESH WITH DAGESHoSHIN WITH DAGESHoTAV WITH DAGESHoVAV " ++
      "WITH HOLAMoBET WITH RAFEoKAF WITH RAFEoPE WITH RAFEiIGATURE ALEF LAMEDaARABIC LETTER ALEF" ++
      " WASLA ISOLATED FORMzaFINAL FORMoBEEH ISOLATED FORMtFINAL FORMtINITIAL FORMtMEDIAL FORMoP" ++
      "EH ISOLATED FORMsFINAL FORMsINITIAL FORMsMEDIAL FORMoBEHEH ISOLATED FORMuFINAL FORMuINITI" ++
      "AL FORMuMEDIAL FORMoTTEHEH ISOLATED FORMvFINAL FORMvINITIAL FORMvMEDIAL FORMpEHEH ISOLATE" ++
      "D FORMuFINAL FORMuINITIAL FORMuMEDIAL FORMpTEH ISOLATED FORMtFINAL FORMtINITIAL FORMtMEDI" ++
      "AL FORMoVEH ISOLATED FORMsFINAL FORMsINITIAL FORMsMEDIAL FORMoPEHEH ISOLATED FORMuFINAL F" ++
      "ORMuINITIAL FORMuMEDIAL FORMoDYEH ISOLATED FORMtFINAL FORMtINITIAL FORMtMEDIAL FORMoNYEH " ++
      "ISOLATED FORMtFINAL FORMtINITIAL FORMtMEDIAL FORMoTCHEH ISOLATED FORMuFINAL FORMuINITIAL " ++
      "FORMuMEDIAL FORMtEH ISOLATED FORMwFINAL FORMwINITIAL FORMwMEDIAL FORMoDDAHAL ISOLATED FOR" ++
      "MvFINAL FORMpAHAL ISOLATED FORMuFINAL FORMpUL ISOLATED FORMsFINAL FORMpDAL ISOLATED FORMt" ++
      "FINAL FORMoJEH ISOLATED FORMsFINAL FORMoRREH ISOLATED FORMtFINAL FORMoKEHEH ISOLATED FORM" ++
      "uFINAL FORMuINITIAL FORMuMEDIAL FORMoGAF ISOLATED FORMsFINAL FORMsINITIAL FORMsMEDIAL FOR" ++
      "MpUEH ISOLATED FORMtFINAL FORMtINITIAL FORMtMEDIAL FORMoNGOEH ISOLATED FORMuFINAL FORMuIN" ++
      "ITIAL FORMuMEDIAL FORMpOON GHUNNA ISOLATED FORMzbFINAL FORMoRNOON ISOLATED FORMuFINAL FOR" ++
      "MuINITIAL FORMuMEDIAL FORMoHEH WITH YEH ABOVE ISOLATED FORMziFINAL FORMsGOAL ISOLATED FOR" ++
      "MxFINAL FORMxINITIAL FORMxMEDIAL FORMsDOACHASHMEE ISOLATED FORMzfFINAL FORMzfINITIAL FORM" ++
      "zfMEDIAL FORMoYEH BARREE ISOLATED FORMzaFINAL FORMzaWITH HAMZA ABOVE ISOLATED FORMzrFINAL" ++
      " FORMhSYMBOL DOT ABOVEsBELOWoTWO DOTS ABOVExBELOWpHREE DOTS ABOVEzaBELOWzaPOINTING DOWNWA" ++
      "RDS ABOVEztBELOWoFOUR DOTS ABOVEyBELOWoDOUBLE VERTICAL BAR BELOWoTWO DOTS VERTICALLY ABOV" ++
      "EzjBELOWoRINGoSMALL TAH ABOVEyBELOWoWASLA ABOVE"),
    (0xFBD3,
      "hLETTER NG ISOLATED FORMrFINAL FORMrINITIAL FORMrMEDIAL FORMoU ISOLATED FORMqFINAL FORMoO" ++
      "E ISOLATED FORMrFINAL FORMoYU ISOLATED FORMrFINAL FORMoU WITH HAMZA ABOVE ISOLATED FORMoV" ++
      "E ISOLATED FORMrFINAL FORMoKIRGHIZ OE ISOLATED FORMzaFINAL FORMwYU ISOLATED FORMzaFINAL F" ++
      "ORMoE ISOLATED FORMqFINAL FORMqINITIAL FORMqMEDIAL FORMoUIGHUR KAZAKH KIRGHIZ ALEF MAKSUR" ++
      "A INITIAL FORMzyMEDIAL FORMiIGATURE YEH WITH HAMZA ABOVE WITH ALEF ISOLATED FORMzwFINAL F" ++
      "ORMzsE ISOLATED FORMzuFINAL FORMzrWAW ISOLATED FORMzvFINAL FORMzrU ISOLATED FORMztFINAL F" ++
      "ORMzrOE ISOLATED FORMzuFINAL FORMzrYU ISOLATED FORMzuFINAL FORMzrE ISOLATED FORMztFINAL F" ++
      "ORMztINITIAL FORMqUIGHUR KIRGHIZ YEH WITH HAMZA ABOVE WITH ALEF MAKSURA ISOLATED FORMzzuF" ++
      "INAL FORMzzuINITIAL FORMiETTER FARSI YEH ISOLATED FORMyFINAL FORMyINITIAL FORMyMEDIAL FOR" ++
      "MiIGATURE YEH WITH HAMZA ABOVE WITH JEEM ISOLATED FORMzrHAH ISOLATED FORMzrMEEM ISOLATED " ++
      "FORMzrALEF MAKSURA ISOLATED FORMzrYEH ISOLATED FORMqBEH WITH JEEM ISOLATED FORMzaHAH ISOL" ++
      "ATED FORMzaKHAH ISOLATED FORMzaMEEM ISOLATED FORMzaALEF MAKSURA ISOLATED FORMzaYEH ISOLAT" ++
      "ED FORMqTEH WITH JEEM ISOLATED FORMzaHAH ISOLATED FORMzaKHAH ISOLATED FORMzaMEEM ISOLATED" ++
      " FORMzaALEF MAKSURA ISOLATED FORMzaYEH ISOLATED FORMrHEH WITH JEEM ISOLATED FORMzbMEEM IS" ++
      "OLATED FORMzbALEF MAKSURA ISOLATED FORMzbYEH ISOLATED FORMqJEEM WITH HAH ISOLATED FORMzbM" ++
      "EEM ISOLATED FORMqHAH WITH JEEM ISOLATED FORMzaMEEM ISOLATED FORMqKHAH WITH JEEM ISOLATED" ++
      " FORMzbHAH ISOLATED FORMzbMEEM ISOLATED FORMqSEEN WITH JEEM ISOLATED FORMzbHAH ISOLATED F" ++
      "ORMzbKHAH ISOLATED FORMzbMEEM ISOLATED FORMrAD WITH HAH ISOLATED FORMzaMEEM ISOLATED FORM" ++
      "qDAD WITH JEEM ISOLATED FORMzaHAH ISOLATED FORMzaKHAH ISOLATED FORMzaMEEM ISOLATED FORMqT" ++
      "AH WITH HAH ISOLATED FORMzaMEEM ISOLATED FORMqZAH WITH MEEM ISOLATED FORMqAIN WITH JEEM I" ++
      "SOLATED FORMzaMEEM ISOLATED FORMqGHAIN WITH JEEM ISOLATED FORMzcMEEM ISOLATED FORMqFEH WI" ++
      "TH JEEM ISOLATED FORMzaHAH ISOLATED FORMzaKHAH ISOLATED FORMzaMEEM ISOLATED FORMzaALEF MA" ++
      "KSURA ISOLATED FORMzaYEH ISOLATED FORMqQAF WITH HAH ISOLATED FORMzaMEEM ISOLATED FORMzaAL" ++
      "EF MAKSURA ISOLATED FORMzaYEH ISOLATED FORMqKAF WITH ALEF ISOLATED FORMzaJEEM ISOLATED FO" ++
      "RMzaHAH ISOLATED FORMzaKHAH ISOLATED FORMzaLAM ISOLATED FORMzaMEEM ISOLATED FORMzaALEF MA" ++
      "KSURA ISOLATED FORMzaYEH ISOLATED FORMqLAM WITH JEEM ISOLATED FORMzaHAH ISOLATED FORMzaKH" ++
      "AH ISOLATED FORMzaMEEM ISOLATED FORMzaALEF MAKSURA ISOLATED FORMzaYEH ISOLATED FORMqMEEM " ++
      "WITH JEEM ISOLATED FORMzbHAH ISOLATED FORMzbKHAH ISOLATED FORMzbMEEM ISOLATED FORMzbALEF " ++
      "MAKSURA ISOLATED FORMzbYEH ISOLATED FORMqNOON WITH JEEM ISOLATED FORMzbHAH ISOLATED FORMz" ++
      "bKHAH ISOLATED FORMzbMEEM ISOLATED FORMzbALEF MAKSURA ISOLATED FORMzbYEH ISOLATED FORMqHE" ++
      "H WITH JEEM ISOLATED FORMzaMEEM ISOLATED FORMzaALEF MAKSURA ISOLATED FORMzaYEH ISOLATED F" ++
      "ORMqYEH WITH JEEM ISOLATED FORMzaHAH ISOLATED FORMzaKHAH ISOLATED FORMzaMEEM ISOLATED FOR" ++
      "MzaALEF MAKSURA ISOLATED FORMzaYEH ISOLATED FORMqTHAL WITH SUPERSCRIPT ALEF ISOLATED FORM" ++
      "qREH WITH SUPERSCRIPT ALEF ISOLATED FORMqALEF MAKSURA WITH SUPERSCRIPT ALEF ISOLATED FORM" ++
      "qSHADDA WITH DAMMATAN ISOLATED FORMzdKASRATAN ISOLATED FORMzdFATHA ISOLATED FORMzdDAMMA I" ++
      "SOLATED FORMzdKASRA ISOLATED FORMzdSUPERSCRIPT ALEF ISOLATED FORMqYEH WITH HAMZA ABOVE WI" ++
      "TH REH FINAL FORMzrZAIN FINAL FORMzrMEEM FINAL FORMzrNOON FINAL FORMzrALEF MAKSURA FINAL " ++
      "FORMzrYEH FINAL FORMqBEH WITH REH FINAL FORMzaZAIN FINAL FORMzaMEEM FINAL FORMzaNOON FINA" ++
      "L FORMzaALEF MAKSURA FINAL FORMzaYEH FINAL FORMqTEH WITH REH FINAL FORMzaZAIN FINAL FORMz" ++
      "aMEEM FINAL FORMzaNOON FINAL FORMzaALEF MAKSURA FINAL FORMzaYEH FINAL FORMrHEH WITH REH F" ++
      "INAL FORMzbZAIN FINAL FORMzbMEEM FINAL FORMzbNOON FINAL FORMzbALEF MAKSURA FINAL FORMzbYE" ++
      "H FINAL FORMqFEH WITH ALEF MAKSURA FINAL FORMzaYEH FINAL FORMqQAF WITH ALEF MAKSURA FINAL" ++
      " FORMzaYEH FINAL FORMqKAF WITH ALEF FINAL FORMzaLAM FINAL FORMzaMEEM FINAL FORMzaALEF MAK" ++
      "SURA FINAL FORMzaYEH FINAL FORMqLAM WITH MEEM FINAL FORMzaALEF MAKSURA FINAL FORMzaYEH FI" ++
      "NAL FORMqMEEM WITH ALEF FINAL FORMzbMEEM FINAL FORMqNOON WITH REH FINAL FORMzbZAIN FINAL " ++
      "FORMzbMEEM FINAL FORMzbNOON FINAL FORMzbALEF MAKSURA FINAL FORMzbYEH FINAL FORMqALEF MAKS" ++
      "URA WITH SUPERSCRIPT ALEF FINAL FORMqYEH WITH REH FINAL FORMzaZAIN FINAL FORMzaMEEM FINAL" ++
      " FORMzaNOON FINAL FORMzaALEF MAKSURA FINAL FORMzaYEH FINAL FORMzaHAMZA ABOVE WITH JEEM IN" ++
      "ITIAL FORMzrHAH INITIAL FORMzrKHAH INITIAL FORMzrMEEM INITIAL FORMzrHEH INITIAL FORMqBEH " ++
      "WITH JEEM INITIAL FORMzaHAH INITIAL FORMzaKHAH INITIAL FORMzaMEEM INITIAL FORMzaHEH INITI" ++
      "AL FORMqTEH WITH JEEM INITIAL FORMzaHAH INITIAL FORMzaKHAH INITIAL FORMzaMEEM INITIAL FOR" ++
      "MzaHEH INITIAL FORMrHEH WITH MEEM INITIAL FORMqJEEM WITH HAH INITIAL FORMzbMEEM INITIAL F" ++
      "ORMqHAH WITH JEEM INITIAL FORMzaMEEM INITIAL FORMqKHAH WITH JEEM INITIAL FORMzbMEEM INITI" ++
      "AL FORMqSEEN WITH JEEM INITIAL FORMzbHAH INITIAL FORMzbKHAH INITIAL FORMzbMEEM INITIAL FO" ++
      "RMrAD WITH HAH INITIAL FORMzaKHAH INITIAL FORMzaMEEM INITIAL FORMqDAD WITH JEEM INITIAL F" ++
      "ORMzaHAH INITIAL FORMzaKHAH INITIAL FORMzaMEEM INITIAL FORMqTAH WITH HAH INITIAL FORMqZAH" ++
      " WITH MEEM INITIAL FORMqAIN WITH JEEM INITIAL FORMzaMEEM INITIAL FORMqGHAIN WITH JEEM INI" ++
      "TIAL FORMzcMEEM INITIAL FORMqFEH WITH JEEM INITIAL FORMzaHAH INITIAL FORMzaKHAH INITIAL F" ++
      "ORMzaMEEM INITIAL FORMqQAF WITH HAH INITIAL FORMzaMEEM INITIAL FORMqKAF WITH JEEM INITIAL" ++
      " FORMzaHAH INITIAL FORMzaKHAH INITIAL FORMzaLAM INITIAL FORMzaMEEM INITIAL FORMqLAM WITH " ++
      "JEEM INITIAL FORMzaHAH INITIAL FORMzaKHAH INITIAL FORMzaMEEM INITIAL FORMzaHEH INITIAL FO" ++
      "RMqMEEM WITH JEEM INITIAL FORMzbHAH INITIAL FORMzbKHAH INITIAL FORMzbMEEM INITIAL FORMqNO" ++
      "ON WITH JEEM INITIAL FORMzbHAH INITIAL FORMzbKHAH INITIAL FORMzbMEEM INITIAL FORMzbHEH IN" ++
      "ITIAL FORMqHEH WITH JEEM INITIAL FORMzaMEEM INITIAL FORMzaSUPERSCRIPT ALEF INITIAL FORMqY" ++
      "EH WITH JEEM INITIAL FORMzaHAH INITIAL FORMzaKHAH INITIAL FORMzaMEEM INITIAL FORMzaHEH IN" ++
      "ITIAL FORMzbAMZA ABOVE WITH MEEM MEDIAL FORMzrHEH MEDIAL FORMqBEH WITH MEEM MEDIAL FORMza" ++
      "HEH MEDIAL FORMqTEH WITH MEEM MEDIAL FORMzaHEH MEDIAL FORMrHEH WITH MEEM MEDIAL FORMzbHEH" ++
      " MEDIAL FORMqSEEN WITH MEEM MEDIAL FORMzbHEH MEDIAL FORMrHEEN WITH MEEM MEDIAL FORMzcHEH " ++
      "MEDIAL FORMqKAF WITH LAM MEDIAL FORMzaMEEM MEDIAL FORMqLAM WITH MEEM MEDIAL FORMqNOON WIT" ++
      "H MEEM MEDIAL FORMzbHEH MEDIAL FORMqYEH WITH MEEM MEDIAL FORMzaHEH MEDIAL FORMqSHADDA WIT" ++
      "H FATHA MEDIAL FORMzdDAMMA MEDIAL FORMzdKASRA MEDIAL FORMqTAH WITH ALEF MAKSURA ISOLATED " ++
      "FORMzaYEH ISOLATED FORMqAIN WITH ALEF MAKSURA ISOLATED FORMzaYEH ISOLATED FORMqGHAIN WITH" ++
      " ALEF MAKSURA ISOLATED FORMzcYEH ISOLATED FORMqSEEN WITH ALEF MAKSURA ISOLATED FORMzbYEH " ++
      "ISOLATED FORMrHEEN WITH ALEF MAKSURA ISOLATED FORMzcYEH ISOLATED FORMqHAH WITH ALEF MAKSU" ++
      "RA ISOLATED FORMzaYEH ISOLATED FORMqJEEM WITH ALEF MAKSURA ISOLATED FORMzbYEH ISOLATED FO" ++
      "RMqKHAH WITH ALEF MAKSURA ISOLATED FORMzbYEH ISOLATED FORMqSAD WITH ALEF MAKSURA ISOLATED" ++
      " FORMzaYEH ISOLATED FORMqDAD WITH ALEF MAKSURA ISOLATED FORMzaYEH ISOLATED FORMqSHEEN WIT" ++
      "H JEEM ISOLATED FORMzcHAH ISOLATED FORMzcKHAH ISOLATED FORMzcMEEM ISOLATED FORMzcREH ISOL" ++
      "ATED FORMrEEN WITH REH ISOLATED FORMrAD WITH REH ISOLATED FORMqDAD WITH REH ISOLATED FORM" ++
      "qTAH WITH ALEF MAKSURA FINAL FORMzaYEH FINAL FORMqAIN WITH ALEF MAKSURA FINAL FORMzaYEH F" ++
      "INAL FORMqGHAIN WITH ALEF MAKSURA FINAL FORMzcYEH FINAL FORMqSEEN WITH ALEF MAKSURA FINAL" ++
      " FORMzbYEH FINAL FORMrHEEN WITH ALEF MAKSURA FINAL FORMzcYEH FINAL FORMqHAH WITH ALEF MAK" ++
      "SURA FINAL FORMzaYEH FINAL FORMqJEEM WITH ALEF MAKSURA FINAL FORMzbYEH FINAL FORMqKHAH WI" ++
      "TH ALEF MAKSURA FINAL FORMzbYEH FINAL FORMqSAD WITH ALEF MAKSURA FINAL FORMzaYEH FINAL FO" ++
      "RMqDAD WITH ALEF MAKSURA FINAL FORMzaYEH FINAL FORMqSHEEN WITH JEEM FINAL FORMzcHAH FINAL" ++
      " FORMzcKHAH FINAL FORMzcMEEM FINAL FORMzcREH FINAL FORMrEEN WITH REH FINAL FORMrAD WITH R" ++
      "EH FINAL FORMqDAD WITH REH FINAL FORMqSHEEN WITH JEEM INITIAL FORMzcHAH INITIAL FORMzcKHA" ++
      "H INITIAL FORMzcMEEM INITIAL FORMrEEN WITH HEH INITIAL FORMrHEEN WITH HEH INITIAL FORMqTA" ++
      "H WITH MEEM INITIAL FORMqSEEN WITH JEEM MEDIAL FORMzbHAH MEDIAL FORMzbKHAH MEDIAL FORMrHE" ++
      "EN WITH JEEM MEDIAL FORMzcHAH MEDIAL FORMzcKHAH MEDIAL FORMqTAH WITH MEEM MEDIAL FORMqZAH" ++
      " WITH MEEM MEDIAL FORMqALEF WITH FATHATAN FINAL FORMzkISOLATED FORMaORNATE LEFT PARENTHES" ++
      "IShRIGHT PARENTHESISaARABIC LIGATURE RAHIMAHU ALLAAHsDI ALLAAHU ANHzhAAzhUMzjAAziNNAqSALL" ++
      "ALLAAHU ALAYHI WA-AALIHqALAYHI AS-SALAAMwM AS-SALAAMxAA AS-SALAAMw AS-SALAATU WAS-SALAAMq" ++
      "QUDDISA SIRRAHqSALLALLAHU ALAYHI WAAALIHEE WA-SALLAMqALAYHAA AS-SALAAMqTABAARAKA WA-TAAAL" ++
      "AAqRAHIMAHUM ALLAAHqTEH WITH JEEM WITH MEEM INITIAL FORMzaHAH WITH JEEM FINAL FORMzoINITI" ++
      "AL FORMzjMEEM INITIAL FORMzaKHAH WITH MEEM INITIAL FORMzaMEEM WITH JEEM INITIAL FORMzkHAH" ++
      " INITIAL FORMzkKHAH INITIAL FORMqJEEM WITH MEEM WITH HAH FINAL FORMzpINITIAL FORMqHAH WIT" ++
      "H MEEM WITH YEH FINAL FORMzkALEF MAKSURA FINAL FORMqSEEN WITH HAH WITH JEEM INITIAL FORMz" ++
      "bJEEM WITH HAH INITIAL FORMzlALEF MAKSURA FINAL FORMzbMEEM WITH HAH FINAL FORMzpINITIAL F" ++
      "ORMzlJEEM INITIAL FORMzlMEEM FINAL FORMzqINITIAL FORMrAD WITH HAH WITH HAH FINAL FORMznIN" ++
      "ITIAL FORMzaMEEM WITH MEEM FINAL FORMrHEEN WITH HAH WITH MEEM FINAL FORMzqINITIAL FORMzcJ" ++
      "EEM WITH YEH FINAL FORMzcMEEM WITH KHAH FINAL FORMzrINITIAL FORMzmMEEM FINAL FORMzrINITIA" ++
      "L FORMqDAD WITH HAH WITH ALEF MAKSURA FINAL FORMzaKHAH WITH MEEM FINAL FORMzpINITIAL FORM" ++
      "qTAH WITH MEEM WITH HAH FINAL FORMzoINITIAL FORMzkMEEM INITIAL FORMzkYEH FINAL FORMqAIN W" ++
      "ITH JEEM WITH MEEM FINAL FORMzaMEEM WITH MEEM FINAL FORMzpINITIAL FORMzkALEF MAKSURA FINA" ++
      "L FORMqGHAIN WITH MEEM WITH MEEM FINAL FORMzmYEH FINAL FORMzmALEF MAKSURA FINAL FORMqFEH " ++
      "WITH KHAH WITH MEEM FINAL FORMzpINITIAL FORMqQAF WITH MEEM WITH HAH FINAL FORMzkMEEM FINA" ++
      "L FORMqLAM WITH HAH WITH MEEM FINAL FORMzjYEH FINAL FORMzjALEF MAKSURA FINAL FORMzaJEEM W" ++
      "ITH JEEM INITIAL FORMzpFINAL FORMzaKHAH WITH MEEM FINAL FORMzpINITIAL FORMzaMEEM WITH HAH" ++
      " FINAL FORMzoINITIAL FORMqMEEM WITH HAH WITH JEEM INITIAL FORMzkMEEM INITIAL FORMzkYEH FI" ++
      "NAL FORMzbJEEM WITH HAH INITIAL FORMzlMEEM INITIAL FORMzbKHAH WITH JEEM INITIAL FORMzlMEE" ++
      "M INITIAL FORM"),
    (0xFD92,
      "zbJEEM WITH KHAH INITIAL FORMqHEH WITH MEEM WITH JEEM INITIAL FORMzkMEEM INITIAL FORMqNOO" ++
      "N WITH HAH WITH MEEM INITIAL FORMzkALEF MAKSURA FINAL FORMzbJEEM WITH MEEM FINAL FORMzqIN" ++
      "ITIAL FORMzlALEF MAKSURA FINAL FORMzbMEEM WITH YEH FINAL FORMzlALEF MAKSURA FINAL FORMqYE" ++
      "H WITH MEEM WITH MEEM FINAL FORMzpINITIAL FORMqBEH WITH KHAH WITH YEH FINAL FORMqTEH WITH" ++
      " JEEM WITH YEH FINAL FORMzkALEF MAKSURA FINAL FORMzaKHAH WITH YEH FINAL FORMzkALEF MAKSUR" ++
      "A FINAL FORMzaMEEM WITH YEH FINAL FORMzkALEF MAKSURA FINAL FORMqJEEM WITH MEEM WITH YEH F" ++
      "INAL FORMzbHAH WITH ALEF MAKSURA FINAL FORMzbMEEM WITH ALEF MAKSURA FINAL FORMqSEEN WITH " ++
      "KHAH WITH ALEF MAKSURA FINAL FORMrAD WITH HAH WITH YEH FINAL FORMrHEEN WITH HAH WITH YEH " ++
      "FINAL FORMqDAD WITH HAH WITH YEH FINAL FORMqLAM WITH JEEM WITH YEH FINAL FORMzaMEEM WITH " ++
      "YEH FINAL FORMqYEH WITH HAH WITH YEH FINAL FORMzaJEEM WITH YEH FINAL FORMzaMEEM WITH YEH " ++
      "FINAL FORMqMEEM WITH MEEM WITH YEH FINAL FORMqQAF WITH MEEM WITH YEH FINAL FORMqNOON WITH" ++
      " HAH WITH YEH FINAL FORMqQAF WITH MEEM WITH HAH INITIAL FORMqLAM WITH HAH WITH MEEM INITI" ++
      "AL FORMqAIN WITH MEEM WITH YEH FINAL FORMqKAF WITH MEEM WITH YEH FINAL FORMqNOON WITH JEE" ++
      "M WITH HAH INITIAL FORMqMEEM WITH KHAH WITH YEH FINAL FORMqLAM WITH JEEM WITH MEEM INITIA" ++
      "L FORMqKAF WITH MEEM WITH MEEM FINAL FORMqLAM WITH JEEM WITH MEEM FINAL FORMqNOON WITH JE" ++
      "EM WITH HAH FINAL FORMqJEEM WITH HAH WITH YEH FINAL FORMqHAH WITH JEEM WITH YEH FINAL FOR" ++
      "MqMEEM WITH JEEM WITH YEH FINAL FORMqFEH WITH MEEM WITH YEH FINAL FORMqBEH WITH HAH WITH " ++
      "YEH FINAL FORMqKAF WITH MEEM WITH MEEM INITIAL FORMqAIN WITH JEEM WITH MEEM INITIAL FORMq" ++
      "SAD WITH MEEM WITH MEEM INITIAL FORMrEEN WITH KHAH WITH YEH FINAL FORMqNOON WITH JEEM WIT" ++
      "H YEH FINAL FORM"),
    (0xFDCF, "qSALAAMUHU ALAYNAA"),
    (0xFDF0,
      "tLA USED AS KORANIC STOP SIGN ISOLATED FORMqQALA USED AS KORANIC STOP SIGN ISOLATED FORMq" ++
      "ALLAH ISOLATED FORMrKBAR ISOLATED FORMqMOHAMMAD ISOLATED FORMqSALAM ISOLATED FORMqRASOUL " ++
      "ISOLATED FORMqALAYHE ISOLATED FORMqWASALLAM ISOLATED FORMqSALLA ISOLATED FORMvLLAHOU ALAY" ++
      "HE WASALLAMqJALLAJALALOUHOUaRIAL SIGNaARABIC LIGATURE BISMILLAH AR-RAHMAN AR-RAHEEMqSUBHA" ++
      "ANAHU WA TAAALAAqAZZA WA JALL"),
    (0xFE10,
      "aPRESENTATION FORM FOR VERTICAL COMMAzgIDEOGRAPHIC COMMAzsFULL STOPzgCOLONzgSEMICOLONzgEX" ++
      "CLAMATION MARKzgQUESTION MARKzgLEFT WHITE LENTICULAR BRACKETzgRIGHT WHITE LENTICULAR BRAK" ++
      "CETzgHORIZONTAL ELLIPSIS"),
    (0xFE20,
      "aCOMBINING LIGATURE LEFT HALFtRIGHT HALFkDOUBLE TILDE LEFT HALFxRIGHT HALFkMACRON LEFT HA" ++
      "LFrRIGHT HALFkCONJOINING MACRONkLIGATURE LEFT HALF BELOWtRIGHT HALF BELOWkTILDE LEFT HALF" ++
      " BELOWqRIGHT HALF BELOWkMACRON LEFT HALF BELOWrRIGHT HALF BELOWkCONJOINING MACRON BELOWlY" ++
      "RILLIC TITLO LEFT HALFzaRIGHT HALFaPRESENTATION FORM FOR VERTICAL TWO DOT LEADERzgEM DASH" ++
      "zhN DASHzgLOW LINEzgWAVY LOW LINEzgLEFT PARENTHESISzgRIGHT PARENTHESISzgLEFT CURLY BRACKE" ++
      "TzgRIGHT CURLY BRACKETzgLEFT TORTOISE SHELL BRACKETzgRIGHT TORTOISE SHELL BRACKETzgLEFT B" ++
      "LACK LENTICULAR BRACKETzgRIGHT BLACK LENTICULAR BRACKETzgLEFT DOUBLE ANGLE BRACKETzgRIGHT" ++
      " DOUBLE ANGLE BRACKETzgLEFT ANGLE BRACKETzgRIGHT ANGLE BRACKETzgLEFT CORNER BRACKETzgRIGH" ++
      "T CORNER BRACKETzgLEFT WHITE CORNER BRACKETzgRIGHT WHITE CORNER BRACKETaSESAME DOTaWHITE " ++
      "SESAME DOTaPRESENTATION FORM FOR VERTICAL LEFT SQUARE BRACKETzgRIGHT SQUARE BRACKETaDASHE" ++
      "D OVERLINEaCENTRELINE OVERLINEaWAVY OVERLINEaDOUBLE WAVY OVERLINEbASHED LOW LINEaCENTRELI" ++
      "NE LOW LINEaWAVY LOW LINEaSMALL COMMAgIDEOGRAPHIC COMMAgFULL STOP"),
    (0xFE54,
      "gSEMICOLONgCOLONgQUESTION MARKgEXCLAMATION MARKhM DASHgLEFT PARENTHESISgRIGHT PARENTHESIS" ++
      "gLEFT CURLY BRACKETgRIGHT CURLY BRACKETgLEFT TORTOISE SHELL BRACKETgRIGHT TORTOISE SHELL " ++
      "BRACKETgNUMBER SIGNgAMPERSANDhSTERISKgPLUS SIGNgHYPHEN-MINUSgLESS-THAN SIGNgGREATER-THAN " ++
      "SIGNgEQUALS SIGN"),
    (0xFE68, "gREVERSE SOLIDUSgDOLLAR SIGNgPERCENT SIGNgCOMMERCIAL AT"),
    (0xFE70,
      "aARABIC FATHATAN ISOLATED FORMhTATWEEL WITH FATHATAN ABOVEhDAMMATAN ISOLATED FORMhTAIL FR" ++
      "AGMENThKASRATAN ISOLATED FORM"),
    (0xFE76,
      "hFATHA ISOLATED FORMnMEDIAL FORMhDAMMA ISOLATED FORMnMEDIAL FORMhKASRA ISOLATED FORMnMEDI" ++
      "AL FORMhSHADDA ISOLATED FORMoMEDIAL FORMiUKUN ISOLATED FORMnMEDIAL FORMhLETTER HAMZA ISOL" ++
      "ATED FORMoALEF WITH MADDA ABOVE ISOLATED FORMzlFINAL FORMyHAMZA ABOVE ISOLATED FORMzlFINA" ++
      "L FORMoWAW WITH HAMZA ABOVE ISOLATED FORMzkFINAL FORMoALEF WITH HAMZA BELOW ISOLATED FORM" ++
      "zlFINAL FORMoYEH WITH HAMZA ABOVE ISOLATED FORMzkFINAL FORMzkINITIAL FORMzkMEDIAL FORMoAL" ++
      "EF ISOLATED FORMtFINAL FORMoBEH ISOLATED FORMsFINAL FORMsINITIAL FORMsMEDIAL FORMoTEH MAR" ++
      "BUTA ISOLATED FORMzbFINAL FORMsISOLATED FORMsFINAL FORMsINITIAL FORMsMEDIAL FORMpHEH ISOL" ++
      "ATED FORMtFINAL FORMtINITIAL FORMtMEDIAL FORMoJEEM ISOLATED FORMtFINAL FORMtINITIAL FORMt" ++
      "MEDIAL FORMoHAH ISOLATED FORMsFINAL FORMsINITIAL FORMsMEDIAL FORMoKHAH ISOLATED FORMtFINA" ++
      "L FORMtINITIAL FORMtMEDIAL FORMoDAL ISOLATED FORMsFINAL FORMoTHAL ISOLATED FORMtFINAL FOR" ++
      "MoREH ISOLATED FORMsFINAL FORMoZAIN ISOLATED FORMtFINAL FORMoSEEN ISOLATED FORMtFINAL FOR" ++
      "MtINITIAL FORMtMEDIAL FORMpHEEN ISOLATED FORMuFINAL FORMuINITIAL FORMuMEDIAL FORMpAD ISOL" ++
      "ATED FORMsFINAL FORMsINITIAL FORMsMEDIAL FORMoDAD ISOLATED FORMsFINAL FORMsINITIAL FORMsM" ++
      "EDIAL FORMoTAH ISOLATED FORMsFINAL FORMsINITIAL FORMsMEDIAL FORMoZAH ISOLATED FORMsFINAL " ++
      "FORMsINITIAL FORMsMEDIAL FORMoAIN ISOLATED FORMsFINAL FORMsINITIAL FORMsMEDIAL FORMoGHAIN" ++
      " ISOLATED FORMuFINAL FORMuINITIAL FORMuMEDIAL FORMoFEH ISOLATED FORMsFINAL FORMsINITIAL F" ++
      "ORMsMEDIAL FORMoQAF ISOLATED FORMsFINAL FORMsINITIAL FORMsMEDIAL FORMoKAF ISOLATED FORMsF" ++
      "INAL FORMsINITIAL FORMsMEDIAL FORMoLAM ISOLATED FORMsFINAL FORMsINITIAL FORMsMEDIAL FORMo" ++
      "MEEM ISOLATED FORMtFINAL FORMtINITIAL FORMtMEDIAL FORMoNOON ISOLATED FORMtFINAL FORMtINIT" ++
      "IAL FORMtMEDIAL FORMoHEH ISOLATED FORMsFINAL FORMsINITIAL FORMsMEDIAL FORMoWAW ISOLATED F" ++
      "ORMsFINAL FORMoALEF MAKSURA ISOLATED FORMzcFINAL FORMoYEH ISOLATED FORMsFINAL FORMsINITIA" ++
      "L FORMsMEDIAL FORMiIGATURE LAM WITH ALEF WITH MADDA ABOVE ISOLATED FORMzwFINAL FORMzkHAMZ" ++
      "A ABOVE ISOLATED FORMzwFINAL FORMzqBELOW ISOLATED FORMzwFINAL FORMzfISOLATED FORMzfFINAL " ++
      "FORM"),
    (0xFEFF, "aZERO WIDTH NO-BREAK SPACE"),
    (0xFF01,
      "aFULLWIDTH EXCLAMATION MARKkQUOTATION MARKkNUMBER SIGNkDOLLAR SIGNkPERCENT SIGNkAMPERSAND" ++
      "lPOSTROPHEkLEFT PARENTHESISkRIGHT PARENTHESISkASTERISKkPLUS SIGNkCOMMAkHYPHEN-MINUSkFULL " ++
      "STOPkSOLIDUSkDIGIT ZEROqONEqTWOrHREEqFOURrIVEqSIXrEVENqEIGHTqNINEkCOLONkSEMICOLONkLESS-TH" ++
      "AN SIGNkEQUALS SIGNkGREATER-THAN SIGNkQUESTION MARKkCOMMERCIAL ATkLATIN CAPITAL LETTER Az" ++
      "gBzgCzgDzgEzgFzgGzgHzgIzgJzgKzgLzgMzgNzgOzgPzgQzgRzgSzgTzgUzgVzgWzgXzgYzgZlEFT SQUARE BRA" ++
      "CKETkREVERSE SOLIDUSlIGHT SQUARE BRACKETkCIRCUMFLEX ACCENTkLOW LINEkGRAVE ACCENTkLATIN SM" ++
      "ALL LETTER AzeBzeCzeDzeEzeFzeGzeHzeIzeJzeKzeLzeMzeNzeOzePzeQzeRzeSzeTzeUzeVzeWzeXzeYzeZlE" ++
      "FT CURLY BRACKETkVERTICAL LINEkRIGHT CURLY BRACKETkTILDEkLEFT WHITE PARENTHESISkRIGHT WHI" ++
      "TE PARENTHESISaHALFWIDTH IDEOGRAPHIC FULL STOPkLEFT CORNER BRACKETkRIGHT CORNER BRACKETkI" ++
      "DEOGRAPHIC COMMAkKATAKANA MIDDLE DOTtLETTER WOzbSMALL AzhIzhUzhEzhOzhYAziUziOzhTUs-HIRAGA" ++
      "NA PROLONGED SOUND MARKs LETTER AzbIzbUzbEzbOzbKAzcIzcUzcEzcOzbSAzcIzcUzcEzcOzbTAzcIzcUzc" ++
      "EzcOzbNAzcIzcUzcEzcOzbHAzcIzcUzcEzcOzbMAzcIzcUzcEzcOzbYAzcUzcOzbRAzcIzcUzcEzcOzbWAzbNtVOI" ++
      "CED SOUND MARKtSEMI-VOICED SOUND MARKkHANGUL FILLERrLETTER KIYEOKySSANGKIYEOKyKIYEOK-SIOS" ++
      "yNIEUNze-CIEUCzfHIEUHyTIKEUTySSANGTIKEUTyRIEULze-KIYEOKzfMIEUMzfPIEUPzfSIOSzfTHIEUTHzfPHI" ++
      "EUPHzfHIEUHyMIEUMyPIEUPySSANGPIEUPyPIEUP-SIOSySIOSzaSANGSIOSyIEUNGyCIEUCySSANGCIEUCyCHIEU" ++
      "CHyKHIEUKHyTHIEUTHyPHIEUPHyHIEUH"),
    (0xFFC2, "yAzaEyYAzbEyEOza"), (0xFFCA, "yYEOzbyOyWAzbEyOE"), (0xFFD2, "yYOyUyWEOzbzaIyYU"),
    (0xFFDA, "yEUyYIyI"),
    (0xFFE0, "aFULLWIDTH CENT SIGNkPOUND SIGNkNOT SIGNkMACRONkBROKEN BARkYEN SIGNkWON SIGN"),
    (0xFFE8,
      "aHALFWIDTH FORMS LIGHT VERTICALkLEFTWARDS ARROWkUPWARDS ARROWkRIGHTWARDS ARROWkDOWNWARDS " ++
      "ARROWkBLACK SQUAREkWHITE CIRCLE"),
    (0xFFF9,
      "aINTERLINEAR ANNOTATION ANCHORxSEPARATORxTERMINATORaOBJECT REPLACEMENT CHARACTERaREPLACEM" ++
      "ENT CHARACTER")]

end DocComments.Text.CharacterName
