import DocComments.Text.CharacterName.Table

/-!
# Names of characters: U+12000 to U+12FFF

The names of cuneiform and the signs of Cyprus.
-/

namespace DocComments.Text.CharacterName

/-- The names. -/
def cuneiform : NameTable :=
  [ (0x12000,
      "aCUNEIFORM SIGN Aq TIMES AxBADxGAN2 TENUxHAxIGIxLAGAR GUNUxMUSHxSAGq2qBr TIMES ASH2yDUN3 " ++
      "GUNUyGALzbN2 TENUyHAyIGI GUNUzaMINyLAGABySHESHyU PLUS U PLUS UsGUNUr2s TIMES BALAGzaGAN2 " ++
      "TENUzaME PLUS ENzaSHA3zaTAK4qDqKr TIMES ERIN2ySHITA PLUS GISHqLr TIMES ALyDIM2yGISHyHAyKA" ++
      "D3zaIySHEyUSHrANrEPHqMARt TIMES SHEqNr OVER ANsTHREE TIMESsPLUS NAGA OPPOSING AN PLUS NAG" ++
      "AzdSQUAREDrSHEqPINqRADt TIMES KURrKABqSAL2rHs ZIDA TENUtKABA TENUtOVER ASH TUG2 OVER TUG2" ++
      " TUG2 OVER TUG2 PAPzdOVER ASHzl CROSSING ASH OVER ASH OVER ASHs2sGABpBArDrG3rHAR2rLs OVER" ++
      " BALsAGrRsA2qIr TIMES AyGARyIGI GUNUqUr OVER BU ABzbUNsCROSSING BUrLUGu OVER BULUGrRs2pDA" ++
      "rGs KISIM5 TIMES A PLUS MASHziMARzhBALAGziIzhGAzj PLUS MASHziIzjR2ziUDzhHAzhIRzj PLUS LUz" ++
      "hKAKzhLAziUzj PLUS MASH2zjMzhNEzhPAP PLUS PAPzhSIzhTAK4zhU2 PLUS GIR2ziSHrMrRsA3t4qIrBrMs" ++
      " TIMES SHEs2rNs KASKAL U GUNU DISHrSHqUr OVER DUsGUNUsSHESHIGrBs TIMES ESH2s2rGsUDrHrNs3t" ++
      " GUNUy GUNUs4rR2pEq TIMES PAPrOVER E NUN OVER NUNq2r TIMES A PLUS HA PLUS DAyGARyMIySALza" ++
      "HEyUqDINqGIRqLqNr TIMES GAN2zd TENUyMEsCROSSING ENsOPPOSING ENsSQUAREDqRENrIN2qSH2qZENt T" ++
      "IMES Azc PLUS LALzl TIMES LALzcNzbBADzbDUN3 GUNUzk GUNUzbHAzd GUNUzbIGI GUNUzbKASKALzh SQ" ++
      "UAREDzcU3zbLAzdL TIMES LALzcIzcUzbU2zcDpGAr GUNUr2s TIMES A PLUS DA PLUS HAzhHAzhIGIzbB2 " ++
      "TENU PLUS TABzbNzbSHzd2 PLUS GALzaBADzcR PLUS RAzbURzd PLUS RAzaDAzbIzcM TIMES SHEzbUBzaE" ++
      "Lzc PLUS LAzbNzc TIMES GAN2 TENUzaGAN2 TENUzcRzbIzc4zd PLUS AzcR2 PLUS SUzaHA PLUS LU PLU" ++
      "S ESH2zcLzd PLUS LAzbI PLUS LIzbUB2zaIGI GUNUzbSH PLUS HU PLUS ASHzaKAKzcSKALzbIDzd PLUS " ++
      "LALzbU3 PLUS ANzaLAzaME PLUS ENzbIzaNUNzd OVER NUNzaPAzaSALzcRzbHEzd PLUS TURzcIDzbUMzaTA" ++
      "K4zaUzbDzc PLUS DUtOVER GA2rBAt CROSSING GABArDs OVER GAD GAR OVER GARrLs GAD OVER GAD GA" ++
      "R OVER GARsAMrMrNs2t TENUuOVER GAN2uCROSSING GAN2rRs3rSHANqESHTINw TIMES KURqIr TIMES EyU" ++
      "sCROSSING GIr4s OVER GI4tCROSSING GI4rDIMrR2t GUNUs3t TIMES A PLUS IGIzbGAN2 TENUzbIGIzbL" ++
      "U PLUS IGIzbPArSALsHt CROSSING GISHuTIMES BADzbTAK4vENUqUr CROSSING GUr2s TIMES KAKzd TIM" ++
      "ES IGI GUNUzaNUNzaSAL PLUS TUG2tGUNUrDs TIMES A PLUS KURzaKURtOVER GUD LUGALrLrMs TIMES S" ++
      "HErRs7sUNtSHpHAr TENUsGUNUrLqIr TIMES ASHzc2yBADyDISHyGADyKINyNUNySHEyUqUrB2t TIMES ANzbH" ++
      "ALzbKASKALzbLISHzbUDrL2pIq AqBqDIMt OVER IDIM BURzfSQUAREDqGrIs DIBtRItOVER IGI SHIR OVER" ++
      " SHIR UD OVER UDtGUNUqLr TIMES GAN2 TENUr2qMr TIMES TAK4sCROSSING IMsOPPOSING IMsSQUAREDr" ++
      "INqNqRqSHpKAr TIMES AzaDzb PLUS KU3zaSH2yBADzbLAGzbRzaIyERIN2zaSH2yGAzbLzbN2 TENUzbRzc PL" ++
      "US SHA3 PLUS AzaIzbR2zbSH PLUS SARzeCROSSING GISHzaUzbR7yIGIzaMyKAKzaIzbDyLIzaUyMEzb PLUS" ++
      " DUzhGIzhTEzaIzb PLUS NUNUZyNEzaUNyPIyRUySAzbRzaHAzbEzbIDzbUzaIGzaUHURyTARyUza2zaDzaMUM T" ++
      "IMES PAzaSHyZIr2s CROSSING KA2rBrD2s3s4s5t OVER KAD5rKs TIMES IGI GUNUrLs TIMES BADtCROSS" ++
      "ING KALrM2s4rSKALv LAGAB TIMES U OVER LAGAB TIMES UwOVER KASKAL LAGAB TIMES U OVER LAGAB " ++
      "TIMES UqESH2qIr TIMES BADyUzaDrDrNrSALsHsIM5v OVER KISIM5qUr OVER HI TIMES ASH2 KU OVER H" ++
      "I TIMES ASH2r3r4s VARIANT FORMr7rLs GUNUrNrRs OPPOSING KURrSHU2qWU318pLArGABu TIMES Azd P" ++
      "LUS DA PLUS HAzjGARzjLALzdLzdNzdSH ZIDA TENUzcBADzdIzcDARzcENzcGAzeRzdUDzf PLUS GUDzcHAze" ++
      "LzdI TIMES NUNzcIGI GUNUzdMze PLUS HAzkLUzcKIzeNzdU3zeLzf PLUS HI PLUS AzcLAGABzdISHzdUze" ++
      "LzcMEze PLUS ENzdUSHzcNEzcSHE PLUS SUMzeITA PLUS GISH PLUS ERIN2zsTENUzeU2zg PLUS SHU2zdU" ++
      "MzcTAGzeK4zdE PLUS A PLUS SU PLUS NAzcUzd PLUS AzjU PLUS Uzd2 PLUS ASHzdDzdSHvSQUAREDtRu " ++
      "TIMES SHEzf PLUS SUMvGUNUza OVER LAGAR GUNU SHErHSHUrLs TIMES LALrMs TIMES KURzd PLUS RUq" ++
      "IrLrMMU2rSHqUr TIMES BADr2s TIMES ALzaBADzaESH2ze TENUzaGAN2 TENUzaHI TIMES BADzaIMzaKAD2" ++
      "zd3ze PLUS ASHzbIzaLA PLUS ASHzcGABzaME PLUS ENzaNEzbUzaSI PLUS ASHzcK2 PLUS BUzaTUG2uENU" ++
      "tCROSSING LU2tOPPOSING LU2tSQUAREDuHESHIGr3rGALu OVER LUGALwPPOSING LUGALvSHESHIGrHrLrMs " ++
      "OVER LUMzc GAR OVER GARpMAr TIMES TAK4sGUNUr2rHrRrSHt2qErSqIrNqUr OVER MUrGs GUNUrNSUBrRG" ++
      "U2rSHt TIMES AzbKURzbZAuOVER MUSHze TIMES A PLUS NAuCROSSING MUSHt3u TIMES Azd PLUS DIzcD" ++
      "IvGUNUpNAr2rGAt INVERTEDuTIMES SHU TENUuOPPOSING NAGAtRrM NUTILLUss2qEr TIMES AyUDsSHESHI" ++
      "GqIr TIMES Er2rMs TIMES GAN2 TENUzcR PLUS GAN2 TENUrNDA2v TIMES ANzeSHzg PLUS ASHzdGUDzdM" ++
      "E PLUS GAN2 TENUzdNEzeUNzdSHEzg PLUS A ANznSHzp PLUS ASHzdU2 PLUS ASHzeSHrSAGqUr11rNs LAG" ++
      "AR TIMES GARzgMASHzgSALzj OVER NUN LAGAR TIMES SALzgUSHtTENUtOVER NUNtCROSSING NUNzg LAGA" ++
      "R OVER LAGARsUZu AB2 TIMES ASHGABzgBIzgDUGzgGUDzgIGI GUNUzgKAD3zgLAzgNEzgSILA3zgU2vKISIM5" ++
      " TIMES BIzl UpPArDrNrPqESH2qIr TIMES AzaByBIzaUyEyIzaByUza2sCROSSING PIrRIGu TIMES KALzcU" ++
      "DzcZAvOPPOSING PIRIGpRArBqIqUpSArG NUTILLUss TIMES AzaDUzcBzaHAzaKAKzbURzaLUMzaMIzaNUNzaS" ++
      "ALzbHIDzaTABzaU2zbBzbMzbRzbSHtOVER SAGtGUNUrLs LAGAB TIMES ASH2rNGA2rRqHAs3t TIMES AzbBAD" ++
      "zbGISHzbNEzbSHU2zbTURzbUzc PLUS As6sB6sR2rEs HUtOVER SHE GAD OVER GAD GAR OVER GARzdTAB O" ++
      "VER TAB GAR OVER GARsG9sNsSHu2uLAMrIDt TIMES AzbIMsMt TIMES AzbBALzcULUGzbDINzbGARzbIGIze" ++
      " GUNUzbKUSHU2zbLULzbMUGzbSALsNIGsRt TENUuOVER SHIR BUR OVER BURsTArUs OVER INVERTED SHUs2" ++
      "sBURqIr GUNUrGs4t OVER SIG4 SHU2rK2rLA3qUr OVER SUrDs2rHURrMsASHrRs9pTAr ASTERISKsTIMES H" ++
      "IyMIsGUNUrBs OVER TAB NI OVER NI DISH OVER DISHtSQUAREDrGs TIMES BIzaGUDzaSHEzcUzaTUG2zaU" ++
      "DrK4rRqEr GUNUqIr TENUrLrRs TIMES TAK4tOVER TIRzc GAD OVER GAD GAR OVER GARqUrG2rKrMrRs O" ++
      "VER TUR ZA OVER ZApUq GUDrU UrOVER U PA OVER PA GAR OVER GARySUR OVER SURyU REVERSED OVER" ++
      " U REVERSEDq2qBqDr KUSHU2sTIMES BADyMIyU PLUS U PLUS Uzo GUNUsGUNUsSHESHIGza TIMES BADrUG" ++
      "qMr TIMES LAGAByME PLUS DAySHA3yUrBINrUMt TIMES KASKALzbPAqNr GUNUqRr CROSSING URsSHESHIG" ++
      "r2s TIMES A PLUS HAzhNAzbLzaHAzaNUNzaU2zc PLUS ASHziBIr4rIs3rUs TIMES AzbSHGABzaBARzaDUNz" ++
      "aGAzcLzcN2 TENUzcRzbUzaHAzaIGIzbMzbSHzaKIzaLUMzaMINzaPAzaSHEzbIG4zaTUzaU PLUS GUDzbDzbRUD" ++
      "AsDAu TIMES UqSHs TIMES AzaKUzcRzaTAK4sXs2sUMXqTUKIqZ3s TIMES KASKALrUpZAr TENUsSQUARED T" ++
      "IMES KURrGrMXqE2qIr OVER ZIr3rBs KABA TENUrGrZ2qUr5s TIMES ArBURrMpKAP ELAMITEpAB TIMES N" ++
      "UNr2 TIMES AqMAR TIMES KUGpDAG KISIM5 TIMES U2 PLUS MASHs3qISH PLUS SHUqUB TIMES SHEpEZEN" ++
      " TIMES GUDzbSHEpGA2 TIMES AN PLUS KAK PLUS AzbSH2qE22qIGpHUSHpKA TIMES ANSHEzaSH3yGISHzaU" ++
      "DyHI TIMES ASH2yLUMyPAySHULyTUyUR2pLAGAB TIMES GIqU2 SHESHIG TIMES BADtTIMES ESH2 PLUS LA" ++
      "LzaSHUpMESHqUSH3 TIMES ZApNA4qINs9sDA2 TIMES BALzdGIqU11 ROTATED NINETY DEGREESpPESH2 AST" ++
      "ERISKqIR2pSAG TIMES IGI GUNUpTI2pUM TIMES MEq U"),
    (0x12400,
      "kNUMERIC SIGN TWO ASHyHREE ASHxFOUR ASHyIVE ASHxSIX ASHyEVEN ASHxEIGHT ASHxNINE ASHxTHREE" ++
      " DISHxFOUR DISHyIVE DISHxSIX DISHyEVEN DISHxEIGHT DISHxNINE DISHxFOUR UyIVE UxSIX UyEVEN " ++
      "UxEIGHT UxNINE UxONE GESH2xTWO GESH2yHREE GESH2xFOUR GESH2yIVE GESH2xSIX GESH2yEVEN GESH2" ++
      "xEIGHT GESH2xNINE GESH2xONE GESHUxTWO GESHUyHREE GESHUxFOUR GESHUyIVE GESHUxTWO SHAR2yHRE" ++
      "E SHAR2zj VARIANT FORMxFOUR SHAR2yIVE SHAR2xSIX SHAR2yEVEN SHAR2xEIGHT SHAR2xNINE SHAR2xO" ++
      "NE SHARUxTWO SHARUyHREE SHARUzj VARIANT FORMxFOUR SHARUyIVE SHARUxSHAR2 TIMES GAL PLUS DI" ++
      "SHztMINxONE BURUxTWO BURUyHREE BURUzi VARIANT FORMxFOUR BURUyIVE BURUxTHREE VARIANT FORM " ++
      "ESH16zu21xFOUR VARIANT FORM LIMMUzv4zv AzwBxSIX VARIANT FORM ASH9yEVEN VARIANT FORM IMIN3" ++
      "zv AzwBxEIGHT VARIANT FORM USSUzv3xNINE VARIANT FORM ILIMMUzw3zw4zw AxTWO ASH TENUyHREE A" ++
      "SH TENUxFOUR ASH TENUyIVE ASH TENUxSIX ASH TENUxONE BAN2xTWO BAN2yHREE BAN2xFOUR BAN2zh V" ++
      "ARIANT FORMyIVE BAN2zh VARIANT FORMxNIGIDAMINzeESHxONE ESHE3xTWO ESHE3xONE THIRD DISHxTWO" ++
      " THIRDS DISHxFIVE SIXTHS DISHxONE THIRD VARIANT FORM AxTWO THIRDS VARIANT FORM AxONE EIGH" ++
      "TH ASHzcQUARTER ASHyLD ASSYRIAN ONE SIXTHzpQUARTERyNE QUARTER GURzcHALF GURxELAMITE ONE T" ++
      "HIRDzgTWO THIRDSzgFORTYzhIFTYxFOUR U VARIANT FORMyIVE U VARIANT FORMxSIX U VARIANT FORMyE" ++
      "VEN U VARIANT FORMxEIGHT U VARIANT FORMxNINE U VARIANT FORM"),
    (0x12470,
      "kPUNCTUATION SIGN OLD ASSYRIAN WORD DIVIDERzcVERTICAL COLONzcDIAGONAL COLONzlTRICOLONzlQU" ++
      "ADCOLON"),
    (0x12480,
      "kSIGN AB TIMES NUN TENUySHU2qD TIMES ESH2pBAD TIMES DISH TENUrHAR2 TIMES AB2zdNIzdZAqU OV" ++
      "ER BU TIMES NA2pDA TIMES TAK4rG TIMES KURqIM TIMES IGIzaU U Us2 TIMES UDqUG TIMES ANSHEzb" ++
      "SHzd AT LEFTzaDINzbUNzaERIN2zaGAzbIzcR2 GUNUzcSHzaHAzbIzaIGI GUNUzaKASKALzbURzcSHU2zg PLU" ++
      "S KASKALzaLAK-020zcMzd TIMES KURzbUH PLUS GISHzaMASHzbESzbIzaNIzaPIzaSHEzbI GUNUpE2 TIMES" ++
      " KURyPAPqRIN2 XqSH2 CROSSING ESH2qZEN SHESHIG TIMES ASHzjHIzjIGI GUNUzjLAzlLzjMEzlSzjSUuT" ++
      "IMES SUpGA2 TIMES BAHAR2zaDIM GUNUzbUG TIMES IGI GUNUzkKASKALzaERENzaGAzcR PLUS DIzjNEzaH" ++
      "A PLUS AzaKUSHU2 PLUS KASKALzaLAMzd TIMES KURzbUHzaMUSHzaNEzc PLUS E2ziGIzaSHIMzaZIZ2rBA " ++
      "ROTATED NINETY DEGREESqESHTIN TIMES UqISH TIMES GISH CROSSING GISHqU2 TIMES IGI GUNUrD PL" ++
      "US GISH TIMES TAK4pHA TENU GUNUqI TIMES ASH OVER HI TIMES ASHpKA TIMES BUyKAyU U UzaRpLAG" ++
      "AB TIMES ZU OVER ZUrK-003u21v5u30u50v1u62u79 OVER LAK-079 GUNUu80v1 OVER LAK-081u92t130u4" ++
      "2t210v9u20v5v8u38u65v6t343v7v8u83v4u90t441v9w TIMES GUzeIGIzePAP PLUS LU3znPAP PLUS LU3ze" ++
      "U2 PLUS BAu50v7u70u83u90v2v3v5t550t608u17w TIMES ASHzeBADzeDUN3 GUNU GUNUzeKU3zeLAzeTARzf" ++
      "EzeU2zfDzfRUDAu36u48w TIMES DUBzeGAzeIGIzh GUNUzeNIzePAP PLUS PAP PLUS LU3zeSHESH PLUS KI" ++
      "zeUDzfRUDAt724u49qU2 GUNU TIMES ASHtTIMES DISHzaHALzaPAPzd PLUS PAP PLUS LU3zaTAK4pMI PLU" ++
      "S ZA7qUSH OVER MUSH TIMES GAzlKAKpNINDA2 TIMES DIM GUNUzdGISHzeULzdHIzdKESH2zdLAK-050zdMA" ++
      "SHzdPAP PLUS PAPzdUze PLUS UzeRUDApSAG GUNU TIMES HAtTIMES ENzaSHE AT LEFTzaTAK4qHA6 TENU" ++
      "rE OVER SHEtPLUS HUB2yNAM2ySARrU2 PLUS DUG TIMES NIzaE2 TIMES ANqI TIMES TAK4pTAK4 PLUS S" ++
      "AGqUM TIMES GAN2 TENUzaTHREE DISHpUR2 INVERTEDtTIMES UDrU TIMES DARA3zaLAK-668zbU3pZA7qU " ++
      "OVER ZU PLUS SARr5 TIMES THREE DISH TENU"),
    (0x12F90,
      "bYPRO-MINOAN SIGN CM001w2w4w5w6w7w8w9v10w1w2xBw3w5w7w9v21w3w4w5w6w7w8w9v30w3w4w5w6w7w8w9v" ++
      "40w1w4w6w7w9v50w1w2w3w4w5w6w8w9v60w1w2w3w4w6w7w8w9v70w1w2w3w4w5xBw6w8w9v80w1w2w3w4w5w6w7w" ++
      "8w9v90w1w2w4w5w6w7w8w9u100w1w2w3w4w5w7w8w9v10w2w4u301w2")]

end DocComments.Text.CharacterName
