/-!
# Rows of character names

The names and the other names of the characters of Unicode 14, those apart that end in the number of
the character and those of the syllables of Hangul. How they are written is told where they are read.
-/

namespace LalrBackend.Text

/-- The names of characters in the order of the characters, and then their other names. -/
def characterNameRows : List String := [
  "~20aaSPACEaaEXCLAMATION MARKakQUOTaaNUMBER SIGNagDOLLAafPERCENTaaAMPERSANDbaPOSTROPHEaaLEFT PA",
  "RENTHESISanRIGHaaASTERISKaaPLUS SIGNaaCOMMAaaHYPHEN-MINUSaaFULL STOPaaSOLIDUSaaDIGIT ZEROgaONE",
  "gaTWOhaHREEgaFOURhaIVEgaSIXhaEVENgaEIGHTgaNINEaaCOLONafSEMIabLESS-THAN SIGafEQUALSafGREATER-TH",
  "ANaaQUESTION MARKaaCOMMERCIAL ATaaLATIN CAPITAL LETTER AvaBvaCvaDvaEvaFvaGvaHvaIvaJvaKvaLvaMva",
  "NvaOvaPvaQvaRvaSvaTvaUvaVvaWvaXvaYvaZbaEFT SQUARE BRACKETaaREVERSE SOLIDUSbaIGHT SQUARE BRACKE",
  "TabCIRCUMFLEX ACCENaaLOW LINEaaGRAVE ACCENTaaLATIN SMALL LETTER AtaBtaCtaDtaEtaFtaGtaHtaItaJta",
  "KtaLtaMtaNtaOtaPtaQtaRtaStaTtaUtaVtaWtaXtaYtaZbaEFT CURLY BRACKETaaVERTICAL LINEaaRIGHT CURLY ",
  "BRACKETaaTILDE~A0abNO-BREAK SPACaaINVERTED EXCLAMATION MARKaaCENT SIGNafPOUNDafCURRENCYafYENaa",
  "BROKEN BARaaSECTION SIGNaaDIAERESISaaCOPYRIGHT SIGNaaFEMININE ORDINAL INDICATORaaLEFT-POINTING",
  " DOUBLE ANGLE QUOTATION MARKaaNOT SIGNabSOFT HYPHEabREGISTERED SIGabMACROabDEGREE SIGafPLUS-MI",
  "NUSaaSUPERSCRIPT TWOnaHREEaaACUTE ACCENTaaMICRO SIGNafPILCROWaaMIDDLE DOTaaCEDILLAaaSUPERSCRIP",
  "T ONEaaMASCULINE ORDINAL INDICATORaaRIGHT-POINTING DOUBLE ANGLE QUOTATION MARKaaVULGAR FRACTIO",
  "N ONE QUARTERuaHALFqaTHREE QUARTERSaaINVERTED QUESTION MARKaaLATIN CAPITAL LETTER A WITH GRAVE",
  "$bACUT$aCIRCUMFLEX$aTILDE$aDIAERESIS$aRING ABOVEwbvaC WITH CEDILLAvaE WITH GRAVE$bACUT$aCIRCUM",
  "FLEX$aDIAERESISvaI WITH GRAVE$bACUT$aCIRCUMFLEX$aDIAERESISvaETHvaN WITH TILDEvbO WITH GRAV$bAC",
  "UT$aCIRCUMFLEX$aTILDE$aDIAERESISaaMULTIPLICATION SIGNaaLATIN CAPITAL LETTER O WITH STROKEvbU W",
  "ITH GRAV$bACUT$aCIRCUMFLEX$aDIAERESISvaY WITH ACUTEvaTHORNgaSMALL LETTER SHARP StaA WITH GRAVE",
  "!bACUT!aCIRCUMFLEX!aTILDE!aDIAERESIS!aRING ABOVEubtaC WITH CEDILLAtaE WITH GRAVE!bACUT!aCIRCUM",
  "FLEX!aDIAERESIStaI WITH GRAVE!bACUT!aCIRCUMFLEX!aDIAERESIStaETHtaN WITH TILDEtbO WITH GRAV!bAC",
  "UT!aCIRCUMFLEX!aTILDE!aDIAERESISaaDIVISION SIGNaaLATIN SMALL LETTER O WITH STROKEtbU WITH GRAV",
  "!bACUT!aCIRCUMFLEX!aDIAERESIStaY WITH ACUTEtaTHORNtaY WITH DIAERESISgaCAPITAL LETTER A WITH MA",
  "CRONgwSMALgaCAPITAL LETTER A WITH BREVEgvSMALgaCAPITAL LETTER A WITH OGONEKgwSMALgaCAPITAL LET",
  "TER C WITH ACUTEgvSMALgaCAPITAL LETTER C WITH CIRCUMFLEXg!SMALgaCAPITAL LETTER C WITH DOT ABOV",
  "EgzSMALgaCAPITAL LETTER C WITH CARONgvSMALglCAPITAL LETTER DgvSMALgaCAPITAL LETTER D WITH STRO",
  "KEgwSMALgaCAPITAL LETTER E WITH MACRONgwSMALgaCAPITAL LETTER E WITH BREVEgvSMALgcCAPITAL LETTE",
  "R E WITH DOT ABOgzSMALgaCAPITAL LETTER E WITH OGONEKgwSMALgaCAPITAL LETTER E WITH CARONgvSMALg",
  "aCAPITAL LETTER G WITH CIRCUMFLEXg!SMALgaCAPITAL LETTER G WITH BREVEgvSMALgcCAPITAL LETTER G W",
  "ITH DOT ABOgzSMALgaCAPITAL LETTER G WITH CEDILLAgxSMALgaCAPITAL LETTER H WITH CIRCUMFLEXg!SMAL",
  "gaCAPITAL LETTER H WITH STROKEgwSMALgbCAPITAL LETTER I WITH TILDgvSMALgaCAPITAL LETTER I WITH ",
  "MACRONgwSMALgaCAPITAL LETTER I WITH BREVEgvSMALgaCAPITAL LETTER I WITH OGONEKgwSMALgaCAPITAL L",
  "ETTER I WITH DOT ABOVEgaSMALL LETTER DOTLESS IgaCAPITAL LIGATURE IJgnSMALgaCAPITAL LETTER J WI",
  "TH CIRCUMFLEXg!SMALgaCAPITAL LETTER K WITH CEDILLAgxSMALubRgaCAPITAL LETTER L WITH ACUTEgvSMAL",
  "gaCAPITAL LETTER L WITH CEDILLAgxSMALgaCAPITAL LETTER L WITH CARONgvSMALgaCAPITAL LETTER L WIT",
  "H MIDDLE DOTg!SMALgaCAPITAL LETTER L WITH STROKEgwSMALgbCAPITAL LETTER N WITH ACUTgvSMALgaCAPI",
  "TAL LETTER N WITH CEDILLAgxSMALgaCAPITAL LETTER N WITH CARONgvSMALvaPRECEDED BY APOSTROPHEgaCA",
  "PITAL LETTER ENGgmSMALgaCAPITAL LETTER O WITH MACRONgwSMALgaCAPITAL LETTER O WITH BREVEgvSMALg",
  "bCAPITAL LETTER O WITH DOUBLE ACUTg$SMALgbCAPITAL LIGATURE OgnSMALgbCAPITAL LETTER R WITH ACUT",
  "gvSMALgaCAPITAL LETTER R WITH CEDILLAgxSMALgaCAPITAL LETTER R WITH CARONgvSMALgaCAPITAL LETTER",
  " S WITH ACUTEgvSMALgaCAPITAL LETTER S WITH CIRCUMFLEXg!SMALgaCAPITAL LETTER S WITH CEDILLAgxSM",
  "ALgaCAPITAL LETTER S WITH CARONgvSMALgaCAPITAL LETTER T WITH CEDILLAgxSMALgaCAPITAL LETTER T W",
  "ITH CARONgvSMALgaCAPITAL LETTER T WITH STROKEgwSMALgbCAPITAL LETTER U WITH TILDgvSMALgaCAPITAL",
  " LETTER U WITH MACRONgwSMALgaCAPITAL LETTER U WITH BREVEgvSMALgcCAPITAL LETTER U WITH RING ABO",
  "g!SMALgbCAPITAL LETTER U WITH DOUBLE ACUTg$SMALgaCAPITAL LETTER U WITH OGONEKgwSMALgaCAPITAL L",
  "ETTER W WITH CIRCUMFLEXg!SMALgqCAPITAL LETTER Yg!SMALgaCAPITAL LETTER Y WITH DIAERESISvaZ WITH",
  " ACUTEgvSMALgbCAPITAL LETTER Z WITH DOT ABOVgzSMALgaCAPITAL LETTER Z WITH CARONgvSMALtaLONG St",
  "aB WITH STROKEgaCAPITAL LETTER B WITH HOOK$aTOPBARgwSMALgaCAPITAL LETTER TONE SIXgrSMALgaCAPIT",
  "AL LETTER OPEN OvaC WITH HOOKguSMALgaCAPITAL LETTER AFRICAN DvaD WITH HOOK$aTOPBARgwSMALtaTURN",
  "ED DELTAgaCAPITAL LETTER REVERSED EvaSCHWAvaOPEN EvaF WITH HOOKguSMALgkCAPITAL LETTER GwaAMMAg",
  "aSMALL LETTER HVgaCAPITAL LETTER IOTAwa WITH STROKEvaK WITH HOOKguSMALtaL WITH BARuaAMBDA WITH",
  " STROKEgaCAPITAL LETTER TURNED MvaN WITH LEFT HOOKgaSMALL LETTER N WITH LONG RIGHT LEGgaCAPITA",
  "L LETTER O WITH MIDDLE TILDE$aHORNguSMALgaCAPITAL LETTER OIglSMALgaCAPITAL LETTER P WITH HOOKg",
  "uSMALgaLETTER YRgaCAPITAL LETTER TONE TWOgrSMALgaCAPITAL LETTER ESHgaLETTER REVERSED ESH LOOPg",
  "aSMALL LETTER T WITH PALATAL HOOKgfCAPITAL LETTER T WITHguSMALgfCAPITAL LETTER T WITH RETROFLE",
  "XvaU WITH HORNguSMALgbCAPITAL LETTER UPSILOvaV WITH HOOKvkYguSMALgaCAPITAL LETTER Z WITH STROK",
  "EgwSMALgaCAPITAL LETTER EZHya REVERSEDgvSMALxaWITH TAILgaLETTER TWO WITH STROKEgbCAPITAL LETTE",
  "R TONE FIVgsSMALgbLETTER INVERTED GLOTTAL STOP WITH STROKnaWYNNnaDENTAL CLICKniLATERngALVEOLAR",
  "ngRETROFLEXgaCAPITAL LETTER DZ WITH CARONwm WITH SMALL LETTER gmSMALL LETTER DgaCAPITAL LETTER",
  " LJwb WITH SMALL LETTER gbSMALL LETTER LgbCAPITAL LETTER Nwb WITH SMALL LETTER gbSMALL LETTER ",
  "NgaCAPITAL LETTER A WITH CARONgvSMALglCAPITAL LETTER IgvSMALglCAPITAL LETTER OgvSMALglCAPITAL ",
  "LETTER UgvSMALgdCAPITAL LETTER U WITH DIAERESIS AND MACg.SMALgaCAPITAL LETTER U WITH DIAERESIS",
  " AND ACUTEg,SMALgaCAPITAL LETTER U WITH DIAERESIS AND CARONg,SMALgaCAPITAL LETTER U WITH DIAER",
  "ESIS AND GRAVEg,SMALtbTURNED gaCAPITAL LETTER A WITH DIAERESIS AND MACRONg.SMALglCAPITAL LETTE",
  "R A WITH DOT ABOVEg.SMALghCAPITAL LETTER AE WITHgxSMALgaCAPITAL LETTER G WITH STROKEgwSMALgaCA",
  "PITAL LETTER G WITH CARONgvSMALglCAPITAL LETTER KgvSMALgaCAPITAL LETTER O WITH OGONEKgwSMALgaC",
  "APITAL LETTER O WITH OGONEK AND MACRONg*SMALgdCAPITAL LETTER EZH WITH CAgxSMALtlJgaCAPITAL LET",
  "TER DZwb WITH SMALL LETTER gbSMALL LETTER DgaCAPITAL LETTER G WITH ACUTEgvSMALgaCAPITAL LETTER",
  " HWAIRvaWYNNvaN WITH GRAVEgvSMALgbCAPITAL LETTER A WITH RING ABOVE AND ACUTg.SMALggCAPITAL LET",
  "TER AE WITHgwSMALggCAPITAL LETTER O WITH STROKE ANDg)SMALgbCAPITAL LETTER A WITH DOUBLE GRAVg$",
  "SMALgcCAPITAL LETTER A WITH INVERTED BREg&SMALgcCAPITAL LETTER E WITH DOUBLE GRAg$SMALgcCAPITA",
  "L LETTER E WITH INVERTED BREg&SMALgcCAPITAL LETTER I WITH DOUBLE GRAg$SMALgcCAPITAL LETTER I W",
  "ITH INVERTED BREg&SMALgcCAPITAL LETTER O WITH DOUBLE GRAg$SMALgcCAPITAL LETTER O WITH INVERTED",
  " BREg&SMALgcCAPITAL LETTER R WITH DOUBLE GRAg$SMALgcCAPITAL LETTER R WITH INVERTED BREg&SMALgc",
  "CAPITAL LETTER U WITH DOUBLE GRAg$SMALgcCAPITAL LETTER U WITH INVERTED BREg&SMALgaCAPITAL LETT",
  "ER S WITH COMMA BELOWg#SMALgrCAPITAL LETTER Tg#SMALgaCAPITAL LETTER YOGHgnSMALgaCAPITAL LETTER",
  " H WITH CARONgvSMALgaCAPITAL LETTER N WITH LONG RIGHT LEGgaSMALL LETTER D WITH CURLgaCAPITAL L",
  "ETTER OUglSMALgaCAPITAL LETTER Z WITH HOOKguSMALgaCAPITAL LETTER A WITH DOT ABOVEgzSMALgaCAPIT",
  "AL LETTER E WITH CEDILLAgxSMALgaCAPITAL LETTER O WITH DIAERESIS AND MACRONg.SMALglCAPITAL LETT",
  "ER O WITH TILDEg)SMALgaCAPITAL LETTER O WITH DOT ABOVEgzSMALgaCAPITAL LETTER O WITH DOT ABOVE ",
  "AND MACRONg.SMALghCAPITAL LETTER Y WITHgwSMALtaL WITH CURLtkNtkTtaDOTLESS JuaB DIGRAPHtiQPgaCA",
  "PITAL LETTER A WITH STROKEvmCgwSMALgaCAPITAL LETTER L WITH BARvaT WITH DIAGONAL STROKEgaSMALL ",
  "LETTER S WITH SWASH TAILtqZgaCAPITAL LETTER GLOTTAL STOPgvSMALgaCAPITAL LETTER B WITH STROKEva",
  "U BARvaTURNED VvaE WITH STROKEgwSMALgmCAPITAL LETTER JgwSMALgaCAPITAL LETTER SMALL Q WITH HOOK",
  " TAILgrSMALL LETTERgaCAPITAL LETTER R WITH STROKEgwSMALgmCAPITAL LETTER YgwSMALtaTURNED AtbALP",
  "HtfTURNED taB WITH HOOKtaOPEN OtaC WITH CURLtbD WITH TAI!aHOOKtaREVERSED EtaSCHWAya WITH HOOKt",
  "aOPEN EtgREVERSED +a WITH HOOKtaCLOSED REVERSED OPEN EtbDOTLESS J WITH STROKtaG WITH HOOKtaSCR",
  "IPT GgcLETTER SMALL CAPITALgaSMALL LETTER GAMMAtaRAMS HORNtaTURNED HtaH WITH HOOKukENGtaI WITH",
  " STROKEuaOTAgaLETTER SMALL CAPITAL IgaSMALL LETTER L WITH MIDDLE TILDE!aBELT!aRETROFLEX HOOKua",
  "EZHtaTURNED M#a WITH LONG LEGtaM WITH HOOKtfN WITH LEFT!fRETROFLEXgaLETTER SMALL CAPITAL NgaSM",
  "ALL LETTER BARRED OgaLETTER SMALL CAPITAL OEgaSMALL LETTER CLOSED OMEGAtaPHItaTURNED R#a WITH ",
  "LONG LEG*aHOOKtaR WITH LONG LEG!aTAIL!aFISHHOOKuoEVERSED RgaLETTER SMALL CAPITAL R#bINVERTED g",
  "aSMALL LETTER S WITH HOOKtaESHtaDOTLESS J WITH STROKE AND HOOKtaSQUAT REVERSED ESHtaESH WITH C",
  "URLtaTURNED Tua WITH RETROFLEX HOOKtaU BARuaPSILONtaV WITH HOOKtaTURNED V!aW!aYgcLETTER SMALL ",
  "CAPITALgaSMALL LETTER Z WITH RETROFLEX HOOK!aCURLtaEZHwa WITH CURLgaLETTER GLOTTAL STOPnaPHARY",
  "NGEAL VOICED FRICATIVEnaINVERTED GLOTTAL STOPnaSTRETCHED CnaBILABIAL CLICKnaSMALL CAPITAL BgaS",
  "MALL LETTER CLOSED OPEN EgaLETTER SMALL CAPITAL G WITH HOOK#aHgaSMALL LETTER J WITH CROSSED-TA",
  "ILtaTURNED KgaLETTER SMALL CAPITAL LgaSMALL LETTER Q WITH HOOKgaLETTER GLOTTAL STOP WITH STROK",
  "EnyREVERSED gaSMALL LETTER DZ DIGRAPHuiEZHuaZ DIGRAPH WITH CURLtaTS DIGRAPHuiESHuaC DIGRAPH WI",
  "TH CURLtaFENG DIGRAPHtiLSuiZgaLETTER BILABIAL PERCUSSIVEpnDENTgaSMALL LETTER TURNED H WITH FIS",
  "HHOOK?a AND TAILaaMODIFIER LETTER SMALL Hxa WITH HOOKwaJwaRwbTURNED &a WITH HOOKwaCAPITAL INVE",
  "RTED RwaWwaYqaPRIMEqfDOUBLE qaTURNED COMMAqaAPOSTROPHEqaREVERSED COMMAraIGHT HALF RINGqlLEFqaG",
  "LOTTAL STOPqmREVERSED qaLEFT ARROWHEADqlRIGHqkUPqkDOWNqaCIRCUMFLEX ACCENTaaCARONaaMODIFIER LET",
  "TER VERTICAL LINEqaMACRONqaACUTE ACCENTqiGRAVqaLOW VERTICAL LINEuaMACRONuaGRAVE ACCENTuiACUTqa",
  "TRIANGULAR COLONqqHALF qaCENTRED RIGHT HALF RINGylLEFqaUP TACKqfDOWNqaPLUS SIGNqhMINaaBREVEacD",
  "OT ABOagRINGaaOGONEKaaSMALL TILDEaaDOUBLE ACUTE ACCENTaaMODIFIER LETTER RHOTIC HOOKqaCROSS ACC",
  "ENTqaSMALL GAMMAwaLwaSwaXwaREVERSED GLOTTAL STOPqaEXTRA-HIGH TONE BARqnqjMIDqjLOWqmEXTRA-qaYIN",
  " DEPARTING TONE MARKruANGqaVOICINGqaUNASPIRATEDqaDOUBLE APOSTROPHEqaLOW DOWN ARROWHEADukUPukLE",
  "FTulRIGHwaNGqaMIDDLE GRAVE ACCENTxmDOUBLE &iACUTqaLOW TILDEqaRAISED COLONqaBEGIN HIGH TONEqkEN",
  "DqfBEGIN LOWqjENDqaSHELFqfOPEN qaLOW LEFT ARROWaaCOMBINING GRAVE ACCENTkiACUTkhCIRCUMFLEXkaTIL",
  "DEkaMACRONkaOVERLINEkbBREVkcDOT ABOlaIAERESISkaHOOK ABOVEkgRINGkaDOUBLE ACUTE ACCENTkaCARONkaV",
  "ERTICAL LINE ABOVEktDOUBLE raGRAVE ACCENTkaCANDRABINDUkaINVERTED BREVEkcTURNED COMMA ABOklklRE",
  "VERSED kaCOMMA ABOVE RIGHTkaGRAVE ACCENT BELOWkoACUTkgLEFT TACKkmRIGHkaLEFT ANGLE ABOVEkaHORNk",
  "aLEFT HALF RING BELOWkgUP TACKklDOWNkgPLUS SIGNknMINkgPALATALIZED HOOKklRETROFLEXkgDOTlgIAERES",
  "ISkgRINGkgCOMMAlaEDILLAkaOGONEKkaVERTICAL LINE BELOWkhBRIDGkgINVERTED DOUBLE ARCHkgCARONlgIRCU",
  "MFLEX ACCENTkgBREVEklINVERTED khTILDkgMACRONkaLOW LINEkiDOUBLE kaTILDE OVERLAYkjSHORT STROKkpL",
  "ONGkiSHORT SOLIDUSkqLONGkaRIGHT HALF RING BELOWkgINVERTED BRIDGEkhSQUARlgEAGULLkaX ABOVEkbVERT",
  "ICAL TILDkbDOUBLE OVERLINkaGRAVE TONE MARKklACUTkaGREEK PERISPOMENIqaKORONISqbDIALYTIKA TONOqa",
  "YPOGEGRAMMENIkaBRIDGE ABOVEkaEQUALS SIGN BELOWkgDOUBLE VERTICAL LINEkhLEFT ANGLkaNOT TILDE ABO",
  "VEkgHOMOTHETICkgALMOST EQUAL TOkaLEFT RIGHT ARROW BELOWkmUPWARDSkaGRAPHEME JOINERkaRIGHT ARROW",
  "HEAD ABOVEkgLEFT HALF RINGkaFERMATAkaX BELOWkgLEFT ARROWHEADkrRIGH!fAND UP ARROWHEAD qaHALF RI",
  "NG ABOVEkaDOT ABOVE RIGHTkaASTERISK BELOWkgDOUBLE RINGkaZIGZAG ABOVEkaDOUBLE BREVE BELOWwaraMA",
  "CRONxa BELOWraTILDErbINVERTED BREVraRIGHTWARDS ARROW BELOWkaLATIN SMALL LETTER A%aE%aI%aO%aU%a",
  "C%aD%aH%aM%aR%aT%aV%aXaaGREEK CAPITAL LETTER HETAgnSMALgaCAPITAL LETTER ARCHAIC SAMPIgwSMALgaN",
  "UMERAL SIGNgmLOWER gaCAPITAL LETTER PAMPHYLIAN DIGAMMAg#SMAL~37AgaYPOGEGRAMMENIgaSMALL REVERSE",
  "D LUNATE SIGMA SYMBOLmwDOTTm!REVERSED gaQUESTION MARKgaCAPITAL LETTER YOT~384gaTONOSgfDIALYTIK",
  "A ggCAPITAL LETTER ALPHA WITHgaANO TELEIAgaCAPITAL LETTER EPSILON WITH TONOSwlTAvnIO~38CvlOMIC",
  "RON~38EvnUPSILvlOMEGAggSMALL LETTER IOTA WITH DIALYTIKA ANDgaCAPITAL LETTER ALPHAvbBETvbGAMMvb",
  "DELTvaEPSILONvaZETAvdvdTHvcIOvbKAPPvbLAMDvaMUvbNvaXIvaOMICRONvaPIvaRHO~3A3vaSIGMAvaTAUvaUPSILO",
  "NvaPHIvcCvbPSvaOMEGAvbIOTA WITH DIALYTIKvpUPSILONgaSMALL LETTER ALPHA WITH TONOStlEPSILONulTAt",
  "nIOtgUPSILON WITH DIALYTIKA ANDtaALPHAtbBETtbGAMMtbDELTtaEPSILONtaZETAtdtdTHtcIOtbKAPPtbLAMDta",
  "MUtbNtaXItaOMICRONtaPItaRHOtaFINAL SIGMAtftaTAUtaUPSILONtaPHItcCtbPStaOMEGAtbIOTA WITH DIALYTI",
  "KtpUPSILONtaOMICRON WITH TONOStnUPSILtlOMEGAgaCAPITAL KAI SYMBOLghBETAgkTHghUPSILON WITH HOOKt",
  "lACUTE AND tqDIAERESISghPHIhigiKAgaLETTER ARCHAIC KOPPAguSMALL gbLETTER STIGMgnSMALL gcLETTER ",
  "DIGAMgoSMALL gbLETTER KOPPgmSMALL gaLETTER SAMPIgmSMALL abCOPTIC CAPITAL LETTER SHEhnSMALhcCAP",
  "ITAL LETTER FhmSMALhcCAPITAL LETTER KHhnSMALhbCAPITAL LETTER HORhnSMALhaCAPITAL LETTER GANGIAh",
  "pSMALhbCAPITAL LETTER SHIMhoSMALhaCAPITAL LETTER DEIhmSMALaaGREEK KAPPA SYMBOLghRHOghLUNATE SI",
  "GMAhaETTER YOTgaCAPITAL THETA SYMBOLghLUNATE EPSILONgvREVERSED gaCAPITAL LETTER SHOgmSMALgaCAP",
  "ITAL LUNATE SIGMA SYMBOLpaETTER SANgmSMALgaRHO WITH STROKE SYMBOLghCAPITAL REVERSED LUNATE SIG",
  "MAowDOTTo!REVERSED aaCYRILLIC CAPITAL LETTER IE WITH GRAVEzaOyaDJEycGybUKRAINIAN IybDZyaBYELOR",
  "USSIAN-UKRAINIAN IybYyaJEycLycNybTSHybKJybI WITH GRAVyaSHORT UyaDZHEyaAyaBEybVybGHybDybIybZHzb",
  "yaIybSHORT yaKAyaELzaMzaNyaOyaPEyaERzaSyaTEyaUyaEFyaHAyaTSEybCHyaSHA!bCHyaHARD SIGNyaYERUyaSOF",
  "T SIGNyaEyaYUzaAjbSMALL LETTER waBEwbVwbGHwbDwbIwbZHxbwaIwbSHORT waKAwaELxaMxaNwaOwaPEwaERxaSw",
  "aTEwaUwaEFwaHAwaTSEwbCHwaSHAybCHwaHARD SIGNwaYERUwaSOFT SIGNwaEwaYUxaAwaIE WITH GRAVExaOwaDJEw",
  "cGwbUKRAINIAN IwbDZwaBYELORUSSIAN-UKRAINIAN IwbYwaJEwcLwcNwbTSHwbKJwbI WITH GRAVwaSHORT UwaDZH",
  "EjaCAPITAL LETTER OMEGAjoSMALjaCAPITAL LETTER YATjmSMALjaCAPITAL LETTER IOTIFIED EjtSMALjaCAPI",
  "TAL LETTER LITTLE YUSjtSMALjlCAPITAL LETTER IOTIFIEDj$SMALjeCAPITAL LETTER BIGjqSMALjiCAPITAL ",
  "LETTER IOTIFIEDjzSMALjaCAPITAL LETTER KSIjmSMALjcCAPITAL LETTER PjmSMALjaCAPITAL LETTER FITAjn",
  "SMALjbCAPITAL LETTER IZHITSjqSMALjaCAPITAL LETTER IZHITSA WITH DOUBLE GRAVE ACCENTj?SMALjaCAPI",
  "TAL LETTER UKjlSMALjaCAPITAL LETTER ROUND OMEGAjuSMALjaCAPITAL LETTER OMEGA WITH TITLOjzSMALja",
  "CAPITAL LETTER OTjlSMALjaCAPITAL LETTER KOPPAjoSMALjaTHOUSANDS SIGNbaOMBINING CYRILLIC TITLOta",
  "PALATALIZATIONtaDASIA PNEUMATAtjPSILIuaOKRYTIEtaHUNDRED THOUSANDS SIGNtgMILLIONbaYRILLIC CAPIT",
  "AL LETTER SHORT I WITH TAILj!SMALjaCAPITAL LETTER SEMISOFT SIGNjwSMALjaCAPITAL LETTER ER WITH ",
  "TICKjvSMALjaCAPITAL LETTER GHE WITH UPTURNjySMALjaCAPITAL LETTER GHE WITH STROKEjySMALjaCAPITA",
  "L LETTER GHE WITH MIDDLE HOOKj%SMALjaCAPITAL LETTER ZHE WITH DESCENDERj#SMALjqCAPITAL LETTER Z",
  "j!SMALjpCAPITAL LETTER KAj!SMALjaCAPITAL LETTER KA WITH VERTICAL STROKEj)SMALjhCAPITAL LETTER ",
  "KA WITHjxSMALjaCAPITAL LETTER BASHKIR KAjtSMALjaCAPITAL LETTER EN WITH DESCENDERj!SMALjaCAPITA",
  "L LIGATURE EN GHEjrSMALjaCAPITAL LETTER PE WITH MIDDLE HOOKj$SMALjaCAPITAL LETTER ABKHASIAN HA",
  "jvSMALjaCAPITAL LETTER ES WITH DESCENDERj!SMALjpCAPITAL LETTER TEj!SMALjaCAPITAL LETTER STRAIG",
  "HT UjtSMALjaCAPITAL LETTER STRAIGHT U WITH STROKEj(SMALjaCAPITAL LETTER HA WITH DESCENDERj!SMA",
  "LjaCAPITAL LIGATURE TE TSEjrSMALjaCAPITAL LETTER CHE WITH DESCENDERj#SMALjaCAPITAL LETTER CHE ",
  "WITH VERTICAL STROKEj*SMALjaCAPITAL LETTER SHHAjnSMALjaCAPITAL LETTER ABKHASIAN CHEjwSMALjaCAP",
  "ITAL LETTER ABKHASIAN CHE WITH DESCENDERj:SMALjaLETTER PALOCHKAjaCAPITAL LETTER ZHE WITH BREVE",
  "jxSMALjaCAPITAL LETTER KA WITH HOOKjvSMALjaCAPITAL LETTER EL WITH TAILjvSMALjaCAPITAL LETTER E",
  "N WITH HOOKjvSMALjaCAPITAL LETTER EN WITH TAILjvSMALjaCAPITAL LETTER KHAKASSIAN CHEjxSMALjaCAP",
  "ITAL LETTER EM WITH TAILjvSMALwaPALOCHKAjaCAPITAL LETTER A WITH BREVEjvSMALjaCAPITAL LETTER A ",
  "WITH DIAERESISjzSMALjaCAPITAL LIGATURE A IEjpSMALjbCAPITAL LETTER IE WITH BREVjwSMALjaCAPITAL ",
  "LETTER SCHWAjoSMALjaCAPITAL LETTER SCHWA WITH DIAERESISj%SMALjpCAPITAL LETTER ZHEj#SMALjqCAPIT",
  "AL LETTER Zj!SMALjaCAPITAL LETTER ABKHASIAN DZEjwSMALjaCAPITAL LETTER I WITH MACRONjwSMALjaCAP",
  "ITAL LETTER I WITH DIAERESISjzSMALjpCAPITAL LETTER OjzSMALjaCAPITAL LETTER BARRED OjrSMALjaCAP",
  "ITAL LETTER BARRED O WITH DIAERESISj)SMALjpCAPITAL LETTER EjzSMALjaCAPITAL LETTER U WITH MACRO",
  "NjwSMALjaCAPITAL LETTER U WITH DIAERESISjzSMALjaCAPITAL LETTER U WITH DOUBLE ACUTEj$SMALjaCAPI",
  "TAL LETTER CHE WITH DIAERESISj#SMALjaCAPITAL LETTER GHE WITH DESCENDERj#SMALjaCAPITAL LETTER Y",
  "ERU WITH DIAERESISj$SMALjaCAPITAL LETTER GHE WITH STROKE AND HOOKj*SMALjfCAPITAL LETTER HA WIT",
  "HjvSMALjaCAPITAL LETTER HA WITH STROKEjxSMALjbCAPITAL LETTER KOMI DjqSMALjbCAPITAL LETTER KOMI",
  " DJjrSMALjcCAPITAL LETTER KOMI ZjrSMALjdCAPITAL LETTER KOMI DjsSMALjcCAPITAL LETTER KOMI LjrSM",
  "ALjcCAPITAL LETTER KOMI NjrSMALjcCAPITAL LETTER KOMI SjrSMALjcCAPITAL LETTER KOMI TjrSMALjbCAP",
  "ITAL LETTER REVERSED ZjuSMALjaCAPITAL LETTER EL WITH HOOKjvSMALjaCAPITAL LETTER LHAjmSMALjcCAP",
  "ITAL LETTER RjmSMALjaCAPITAL LETTER YAEjmSMALjaCAPITAL LETTER QAjlSMALjaCAPITAL LETTER WEjlSMA",
  "LjaCAPITAL LETTER ALEUT KAjrSMALjaCAPITAL LETTER EL WITH MIDDLE HOOKj$SMALjrCAPITAL LETTER ENj",
  "$SMALjaCAPITAL LETTER PE WITH DESCENDERj!SMALjpCAPITAL LETTER SHHAj$SMALjaCAPITAL LETTER EN WI",
  "TH LEFT HOOKj!SMALjaCAPITAL LETTER DZZHEjoSMALjcCAPITAL LETTER DCjnSMALjaCAPITAL LETTER EL WIT",
  "H DESCENDERj!SMAL~531aaARMENIAN CAPITAL LETTER AYByaBENyaGIMyaDAyaECHyaZAyaEHzaTyaTOyaZHEyaINI",
  "yaLIWNyaXEHyaCAyaKENyaHOyaJAyaGHADyaCHEHyaMENyaYIyaNOWyaSHAyaVOyaCHAyaPEHycJHyaRAyaSEHyaVEWyaT",
  "IWNyaREHyaCOyaYIWNyaPIWRyaKEHybOybFE~559jaMODIFIER LETTER LEFT HALF RINGjaAPOSTROPHEjaEMPHASIS",
  " MARKkfXCLAMATIONjaCOMMAjaQUESTION MARKjjABBREVIAjaSMALL LETTER TURNED AYBwdwaBENwaGIMwaDAwaEC",
  "HwaZAwaEHxaTwaTOwaZHEwaINIwaLIWNwaXEHwaCAwaKENwaHOwaJAwaGHADwaCHEHwaMENwaYIwaNOWwaSHAwaVOwaCHA",
  "waPEHwcJHwaRAwaSEHwaVEWwaTIWNwaREHwaCOwaYIWNwaPIWRwaKEHwbOwbFEqaIGATURE ECH YIWNqaETTER YI WIT",
  "H STROKEjaFULL STOPjaHYPHEN~58DabRIGHT-FACING ARMENIAN ETERNITY SIGa(LEFafARMENIAN DRAM~591aaH",
  "EBREW ACCENT ETNAHTAoaSEGOLpaHALSHELEToaZAQEF QATANuaGADOLoaTIPEHAobREVIobZARQobPASHToaYETIVoa",
  "TEVIRoaGERESHua MUQDAMrbSHAYIoaQARNEY PARAobTELISHA GEDOLoaPAZERoaATNAH HAFUKHobMUNApbAHAPAKpa",
  "ERKHAua KEFULAobDARGobQADMobTELISHA QETANoaYERAH BEN YOMOoaOLEoaILUYoaDEHIoaZINORhaMARK MASORA",
  " CIRCLEhaPOINT SHEVAnaHATAF SEGOLtaPATAHtaQAMATSoaIRIQnaTSEREnaSEGOLnaPATAHnaQAMATSnaHOLAMsa H",
  "ASER FOR VAVnaQUBUTSnaDAGESH OR MAPIQnaMETEGiaUNCTUATION MAQAFiaOINT RAFEiaUNCTUATION PASEQiaO",
  "INT SHIN DOTogiaUNCTUATION SOF PASUQhaMARK UPPER DOTmgLOWhaPUNCTUATION NUN HAFUKHAiaOINT QAMAT",
  "S QATAN~5D0haLETTER ALEFoaBEToaGIMELoaDALEToaHEoaVAVoaZAYINoaHETocToaYODoaFINAL KAFodoaLAMEDoa",
  "FINAL MEModoaFINAL NUNodoaSAMEKHoaAYINoaFINAL PEocoaFINAL TSADIofoaQOFoaRESHoaSHINoaTAV~5EFhaY",
  "OD TRIANGLEhaLIGATURE YIDDISH DOUBLE VAVyaVAV YODyeDOUBLEhaPUNCTUATION GERESHwaSHAYIM~600aaARA",
  "BIC NUMBER SIGNhaSIGN SANAHhaFOOTNOTE MARKERhaSIGN SAFHAoaMVAThaNUMBER MARK ABOVEga-INDIC CUBE",
  " ROOTnfFOURTHga RAYga-INDIC PER MILLE SIGNrfTEN THOUSANDbfFGHANIbaRABIC COMMAhaDATE SEPARATORh",
  "aPOETIC VERSE SIGNhaSIGN MISRAmaSALLALLAHOU ALAYHE WASSALLAMmiALAYHE maRAHMATULLAH ALAYHEoaDI ",
  "ALLAHOU ANHUmaTAKHALLUSiaMALL HIGH TAHsbLIGATURE ALEF WITH LAM WITH YEsaZAINnaFATHAnbDAMMnbKAS",
  "RiaEMICOLONhaLETTER MARKhfEND OF TEXThfTRIPLE DOT PUNCTUATIONhjQUEShaLETTER KASHMIRI YEHoaHAMZ",
  "AoaALEF WITH MADDA ABOVEyhHAMZorWAWoaALEF WITH HAMZA BELOWoaYEH WITH HAMZA ABOVEoaALEFoaBEHoaT",
  "EH MARBUTArapcHoaJEEMoaHAHodKoaDALocTHoaREHoaZAINobSEEpdHpaADocDoaTAHocZoaAINodGHoaKEHEH WITH ",
  "TWO DOTS ABOVE!aHREE DOTS BELOWoaFARSI YEH WITH INVERTED V%aTWO DOTS ABOVE&lHREEhaTATWEELhaLET",
  "TER FEHoaQAFocKoaLAMobMEEoaNOONoaHEHoaWAWoaALEF MAKSURAoaYEHhaFATHATANheDAMMheKASRhaFATHAhbDAM",
  "MhbKASRhbSHADDiaUKUNhaMADDAH ABOVEhgHAMZAnaBELOWhaSUBSCRIPT ALEFhaINVERTED DAMMAhbMARK NOON GH",
  "UNNhaZWARAKAYhaVOWEL SIGN SMALL V ABOVEsnINVERTED saDOT BELOWhaREVERSED DAMMAhaFATHA WITH TWO ",
  "DOTShaWAVY HAMZA BELOWga-INDIC DIGIT ZEROtaONEtaTWOuaHREEtaFOURuaIVEtaSIXuaEVENtaEIGHTtaNINEga",
  " PERCENT SIGNhaDECIMAL SEPARATORhkTHOUSANDShbFIVE POINTED STAhaLETTER DOTLESS BEHwaQAFobSUPERS",
  "CRIPT ALEoaALEF WASLAuaITH WAVY HAMZA ABOVE,aBELOWoaHIGH HAMZAya ALEFzaWAWoaU WITH HAMZA ABOVE",
  "oaHIGH HAMZA YEHocTTsaEHocBEoaTEH WITH RINGxaTHREE DOTS ABOVE DOWNWARDSoaPEHocTEHoeBoaHAH WITH",
  " HAMZA ABOVExgTWO DOTS VERTICALoaNYEHodDoaHAH WITH THREE DOTS ABOVEoaTCHEHtaEHoaDDALpaAL WITH ",
  "RINGxaDOT BELOW)a AND SMALL TAHqaHALpeDpbUpaAL WITH THREE DOTS ABOVE DOWNWARDSxaFOUR DOTS ABOV",
  "EoaRREHpaEH WITH SMALL VxaRINGxaDOT BELOWxgSMALL VxaDOT BELOW AND DOT ABOVExgTWO DOTSoaJEHoaRE",
  "H WITH FOUR DOTS ABOVEogSEEN WITH DOT BELOW AND DOTyaTHREE DOTS BELOW>a AND THREE DOTS ABOVEpa",
  "AD WITH TWO DOTS BELOWyaHREE DOTS ABOVEowTAHowAINoaDOTLESS FEHoaFEH WITH DOT MOVED BELOW#foaVE",
  "HoaFEH WITH THREE DOTS BELOWoaPEHEHoaQAF WITH DOT ABOVExgTHREE DOTSoaKEHEHoaSWASH KAFoaKAF WIT",
  "H RINGxaDOT ABOVEoaNGoaKAF WITH THREE DOTS BELOWoaGAFra WITH RINGoaNGOEHoaGAF WITH TWO DOTS BE",
  "LOWpaUEHpaAF WITH THREE DOTS ABOVEoaLAM WITH SMALL VxaDOT ABOVExgTHREE DOTS+aBELOWogNOON WITH ",
  "DOTtaGHUNNAoaRNOONoaNOON WITH RINGyaTHREE DOTS ABOVEobHEH DOACHASHMEobTCHEH WITH DOT ABOVogHEH",
  " WITH YEHsaGOALwa WITH HAMZA ABOVEoaTEH MARBUTA GOALoaWAW WITH RINGoaKIRGHIZ OEocoaUobYocKIRGH",
  "IZ oaWAW WITH TWO DOTS ABOVEocoaFARSI YEHoaYEH WITH TAILxaSMALL VoaWAW WITH DOT ABOVEoboaYEH W",
  "ITH THREE DOTS BELOWsaBARREEya WITH HAMZA ABOVEhaFULL STOPhaLETTER AEhaSMALL HIGH LIGATURE SAD",
  " WITH LAM WITH ALEF MAKSURA##QAFsaMEEM INITIAL FORMsaLAM ALEFsaJEEMsaTHREE DOTSsaSEENhaEND OF ",
  "AYAHhaSTART OF RUB EL HIZBiaMALL HIGH ROUNDED ZEROsfUPRIGHT RECTANGULARsaDOTLESS HEAD OF KHAHs",
  "aMEEM ISOLATED FORMnaLOW SEENnaHIGH MADDAnaWAWnaYEHndHIGH saNOONhaPLACE OF SAJDAHhaEMPTY CENTR",
  "E LOW STOPufHIGHhaROUNDED HIGH STOP WITH FILLED CENTREhaSMALL LOW MEEMhaLETTER DAL WITH INVERT",
  "ED VoqREHaaEXTENDED ARABIC-INDIC DIGIT ZERO$aONE$aTWO%aHREE$aFOUR%aIVE$aSIX%aEVEN$aEIGHT$aNINE",
  "aaARABIC LETTER SHEEN WITH DOT BELOWopDADopGHAINhaSIGN SINDHI AMPERSANDtaPOSTPOSITION MENhaLET",
  "TER HEH WITH INVERTED VaaSYRIAC END OF PARAGRAPHhaSUPRALINEAR FULL STOPjqBjaPRALINEAR COLONjmB",
  "hgHORIZONTALhaCOLON SKEWED LEFTubRIGHhbSUPRALINEAR COLON SKEWED LEFjbBLINEAR COLON SKEWED RIGH",
  "haCONTRACTIONhaHARKLEAN OBELUSqgMETqcASTERISC~70FhaABBREVIATION MARKhaLETTER ALAPHofSUPERSCRIP",
  "T obBEToaGAMALta GARSHUNIoaDALATHpbOTLESS DALATH RISoaHEoaWAWoaZAINoaHETHodTsa GARSHUNIoaYUDHs",
  "a HEoaKAPHobLAMADoaMIMoaNUNoaSEMKATHohFINAL oaEobPocREVERSED obSADHoaQAPHobRISoaSHINoaTAWoaPER",
  "SIAN BHETHwaGHAMALwaDHALATHhaPTHAHA ABOVEoaBELOWoaDOTTEDhaZQAPHA ABOVEoaBELOWoaDOTTEDhaRBASA A",
  "BOVEnaBELOWhaDOTTED ZLAMA HORIZONTALuaANGULARhaHBASA ABOVEnaBELOWma-ESASA DOTTEDhaESASA ABOVEn",
  "aBELOWhaRWAHAhaFEMININE DOThaQUSHSHAYAhbRUKKAKHhaTWO VERTICAL DOTS ABOVEzaBELOWiaHREE DOTS ABO",
  "VEsaBELOWhaOBLIQUE LINE ABOVEuaBELOWhaMUSIChaBARREKH~74DhaLETTER SOGDIAN ZHAINwaKHAPHwaFEaaARA",
  "BIC LETTER BEH WITH THREE DOTS HORIZONTALLY BELOWxaDOT BELOW AND THREE DOTS ABOVExaTHREE DOTS ",
  "POINTING UPWARDS BELOW|aRDS BELOW AND TWO DOTS ABOVEygWO DOTS BELOW AND DOTxaINVERTED SMALL V ",
  "BELOWxaSMALL VoaHAH WITH TWO DOTS ABOVEyaHREE DOTS POINTING UPWARDS BELOWoaDAL WITH TWO DOTS V",
  "ERTICALLY BELOW AND SMALL TAHxaINVERTED SMALL V BELOWoaREH WITH STROKEobSEEN WITH FOUR DOTS AB",
  "OVolAIN WITH TWOyhHREE DOTS POINTING DOWNWARDygWO DOTS VERTICALLYoaFEH WITH TWO DOTS BELOWyhHR",
  "EE DOTS POINTING UPWARDoaKEHEH WITH DOT ABOVEzgTHREE DOTS.aPOINTING UPWARDS BELOWoaMEEM WITH D",
  "OT ABOVE$aBELOWogNOON WITH TWO DOTSyaSMALL TAH&aVoaLAM WITH BARoaREH WITH TWO DOTS VERTICALLY ",
  "ABOVExgHAMZAogSEEN WITH TWO DOTS VERTICALLYoaHAH WITH SMALL ARABIC LETTER TAH BELOW|aAND TWO D",
  "OTSo@SEENo@REHoaHAH WITH SMALL ARABIC LETTER TAH ABOVEogALEF WITH EXTENDED ARABIC-INDIC DIGIT ",
  "TWO|gIGIT THREEogFARSI YEH WITH EXTENDED ARABIC-INDIC DIGIT TWO|gDIC DIGIT THREE|aDIC DIGIT FO",
  "UR BELOWoaWAW WITH EXTENDED ARABIC-INDIC DIGIT TWO ABOVE|gGIT THREEogYEH BARREE WITH EXTENDED ",
  "ARABIC-INDIC DIGIT TWO|gNDIC DIGIT THREEoaHAH WITH EXTENDED ARABIC-INDIC DIGIT FOUR BELOWoaSEE",
  "N WITH EXTENDED ARABIC-INDIC DIGIT FOUR ABOVEyaINVERTED VoaKAF WITH TWO DOTS ABOVEaaTHAANA LET",
  "TER HAAoaSHAVIYANIoaNOONUoaRAAocBoaLHAVIYANIoaKAAFUocALIobVAAVobMEEMobFAAFobDHAALoaTHAAoaLAAMU",
  "obGAAFpaNAVIYANIoaSEENUoaDAVIYANIohZohToaYAAoaPAVIYANIohJohCHoaTTAAocHHodKoaTHAALUoaZAAoaSHEEN",
  "UpbAADHofDoaTOobZoaAINUoeGHobQAAFobWAAVhaABAFILIifABAheIBIheEEBEEheUBUheOOBOOheEBEieYBEYheOBOi",
  "eABOAhaSUKUNhaLETTER NAA~7C0aaNKO DIGIT ZEROkaONEkaTWOlaHREEkaFOURlaIVEkaSIXlaEVENkaEIGHTkaNIN",
  "EeaLETTER AlaEElaIlaElaUlaOOmalaDAGBASINNAlaNlaBAlbPlbTlbJlbCHlbDlbRmbRlbSlbGBlbFlbKlbLlaNA WO",
  "LOSOlaMAlbNYmblbHlbWlbYlaNYA WOLOSOlaJONA JAqbCHqbReaCOMBINING SHORT HIGH TONEufLOWufRISINGoiL",
  "ONG DESCENDtfHIGHtfLOWtfRISINGoaNASALIZATION MARKoaDOUBLE DOT ABOVEebHIGH TONE APOSTROPHeqLOWe",
  "aSYMBOL OO DENNENldGBAKURUeaCOMMAeaEXCLAMATION MARKeaLAJANYALAN~7FDefDANTAfbOROME SIGefTAMANaa",
  "SAMARITAN LETTER ALAFraBITraGAMANraDALATraIYraBAAraZENraITrcTrbYUraKAAFraLABATraMIMraNUNraSING",
  "AATraINraFIraTSAADIYraQUFraRISHraSHANraTAAFkaMARK INra-ALAFpaOCCLUSIONpaDAGESHlaODIFIER LETTER",
  " EPENTHETIC YUTlpARKkaVOWEL SIGN LONG EvbvaOVERLONG AAvhvcvbOVERLONG vgvbkcMODIFIER LETTER SHO",
  "RTkiVOWEL SIGNvaLONG UvbkaMODIFIER LETTER IkcVOWEL SIGN LONGvbvaOvaSUKUNkaMARK NEQUDAA~830kiPU",
  "NCTUATIONwaAFSAAQxaNGEDwaBAUwcATMAwaSHIYYAALAAkaABBREVIATION MARKkaPUNCTUATION MELODIC QITSAwb",
  "ZIQAwbQITSwaZAEFwaTURUwbARKAANwaSOF MASHFAATwaANNAAU~840aaMANDAIC LETTER HALQApaABqaGqaDqaHpaU",
  "SHENNApaAZpaITpbATqaKSAraqaLqaMqaNqaSpaINpaAPqaSZqaQqaRqaSHqaTpaDUSHENNApaKADpaAINiaAFFRICATIO",
  "N MARKikVOCALIZikGEMIN~85EiaPUNCTUATION~860aaSYRIAC LETTER MALAYALAM NGAybJybNYybTTybNN!bNybBH",
  "ybRybLL!bLybSS~870abARABIC LETTER ALEF WITH ATTACHED FATH*fTOP RIGHT yaRIGHT MIDDLE STROKEypLE",
  "FyaATTACHED KASRA*fBOTTOM RIGHT *aROUND DOT ABOVE+aIGHT ROUND DOT*lLEF*aROUND DOT BELOWyaDOT A",
  "BOVEyjATTACHED TOP RIGHT FATHA AND yoRIGHT MIDDLE STROKEyoATTACHED BOTTOM RIGHT KASRA*aTOP RIG",
  "HT FATHA AND LEFT RINGyoRIGHT MIDDLE STROKEyoATTACHED BOTTOM RIGHT KASRA*aRIGHT HAMZA*hLEFhgTA",
  "TWEEL WITH OVERSTRUCK(aWAWubTWO DOTS BELOhaLETTER THIN YEHhaBASELINE ROUND DOThkRAISEDhaLETTER",
  " NOON WITH INVERTED SMALL VoaHAH WITH INVERTED SMALL V BELOWogTAH WITH DOTxgTHREE DOTSogKEHEH ",
  "WITH TWO DOTS VERTICALLYhaVERTICAL TAIL~890haPOUND MARK ABOVEilIASTRE~898haSMALL HIGH WORD AL-",
  "JUZnaLOW WORD ISHMAAMxaMAALAwaTASHEELhaMADDA WAAJIBhaSUPERSCRIPT ALEF MOKHASSAShaDOUBLED MADDA",
  "hgHALF MADDA OVERhaLETTER BEH WITH SMALL V BELOWxaHAMZA ABOVEogJEEM WITH TWO DOTSouTAHolFEH WI",
  "TH DOT BELOW AND THREEoaQAF WITH DOT BELOWoaLAM WITH DOUBLE BARoaMEEM WITH THREE DOTS ABOVEogY",
  "EH WITH TWO DOTS BELOW AND HAMZA@gDOToaREH WITH LOOPoaWAW WITH DOT WITHINoaROHINGYA YEHoaLOW A",
  "LEFoaDAL WITH THREE DOTS BELOWowSADoaGAF WITH INVERTED STROKEoaSTRAIGHT WAWoaZAIN WITH INVERTE",
  "D V ABOVEoaAIN WITH THREE DOTS BELOWogKAF WITH DOToaQAF WITH DOT BELOW AND NO DOTS ABOVEogBEH ",
  "WITH SMALL MEEMoyPogTEH WITH SMALL TEHogREH WITH SMALL NOONorYEH WITH TWO DOTS BELOW ANDoaAFRI",
  "CAN FEHwaQAFwaNOONoaPEH WITH SMALL VopTppTppCHoqKEoaGHAIN WITH THREE DOTS ABOVEowAFRICAN QAFow",
  "JEEM,aBELOWoaLAM WITH SMALL ARABIC LETTER TAH ABOVEoaGRAFhaSMALL FARSI YEHnjHIGH saYEH BARREE ",
  "WITH TWO DOTS BELOWsaWORD SAHscZhaLARGE ROUND DOT ABOVExaBELOWhgSUKUNhgLARGE CIRCLEnmROUND DOT",
  " INSIDE hbSMALL LOW WAnaHIGH WORD AR-RUBsaSADsaAINsaQAFsaNOON WITH KASRAnqLOWnbHIGH WORD ATH-T",
  "HALATHybS-SAJDyaN-NISFxaSAKTAxaQIFxaWAQFAsaFOOTNOTE MARKERsaSIGN SAFHAhaDISPUTED END OF AYAHha",
  "TURNED DAMMA BELOWhaCURLY FATHAnbDAMMnbKASRnaFATHATANneDAMMneKASRhaTONE ONE DOT ABOVEmgTWO DOT",
  "SmgLOOPmaONE DOT BELOWmgTWO DOTSmgLOOPhaOPEN FATHATANmeDAMMmeKASRhaSMALL HIGH WAWhaFATHA WITH ",
  "RINGsaDOT ABOVEhaKASRA WITH DOT BELOWhaLEFT ARROWHEAD ABOVEhrRIGHhaLEFT ARROWHEAD BELOWhrRIGHh",
  "aDOUBLE RIGHT ARROWHEAD ABOVE,a WITH DOTh&hjDAMMAhaMARK SIDEWAYS NOON GHUNNAaaDEVANAGARI SIGN ",
  "INVERTED CANDRABINDUqlqaANUSVARAqbVISARGlbLETTER SHORT sbtaAsaItaIsaUtaUsaVOCALIC R!aLsaCANDRA",
  " EscSHORTsbsaAIsaCANDRA OscSHORTsbsaAUsaKAtbHsbGtbHsbNGsbCtbHsbJtbHsbNYsbTTubHsbDDubHsbNNsbTtb",
  "HsbDtbHsbNtbNNsbPtbHsbBtbHsbMsbYsbRtbRsbLtbLubLsbVsbSHtbStbsbHlaVOWEL SIGN OExbOlaSIGN NUKTAqb",
  "AVAGRAHlbVOWEL SIGN AwaIxaIwaUxaUwaVOCALIC R(aRwaCANDRA EwcSHORTwbwaAIwaCANDRA OwcSHORTwbwaAUl",
  "aSIGN VIRAMAlaVOWEL SIGN PRISHTHAMATRA EwaAWlaOMlaSTRESS SIGN UDATTAxgANlaGRAVE ACCENTliACUTla",
  "VOWEL SIGN CANDRA LONG EwbUxbUlaLETTER QAsbKHHsdGsbZsbDDDHscRsbFsbYYsaVOCALIC RR!aLLlbVOWEL SI",
  "GN VOCALIC (aLlaDANDAmeOUBLE DmaIGIT ZEROraONEraTWOsaHREEraFOURsaIVEraSIXsaEVENraEIGHTraNINEla",
  "ABBREVIATION SIGNlaSIGN HIGH SPACING DOTlaLETTER CANDRA AsaOEtbOsaAWsaUEtbUsaMARWARI DDAsbZHsb",
  "HEAVY YsbGGsbJJsaGLOTTAL STOPsaDDDAsbBBaaBENGALI ANJIiaSIGN CANDRABINDUnaANUSVARAnbVISARG~985i",
  "bLETTER qaApaIqaIpaUqaUpaVOCALIC RxaL~98FpaEpaAI~993paOpaAUpaKAqbHpbGqbHpbNGpbCqbHpbJqbHpbNYpb",
  "TTrbHpbDDrbHpbNNpbTqbHpbDqbHpbN~9AApbPqbHpbBqbHpbMpbYpbR~9B2pbL~9B6pbSHqbSqbpbH~9BCibSIGN NUKT",
  "nbAVAGRAHibVOWEL SIGN AtaIuaItaUuaUtaVOCALIC R$aR~9C7taEtaAI~9CBtaOtaAUiaSIGN VIRAMAibLETTER K",
  "HANDA T~9D7iaAU LENGTH MARK~9DCiaLETTER RRAqbH~9DFpbYYpaVOCALIC RRxaLLibVOWEL SIGN VOCALIC $aL",
  "~9E6iaDIGIT ZEROoaONEoaTWOpaHREEoaFOURpaIVEoaSIXpaEVENoaEIGHToaNINEiaLETTER RA WITH MIDDLE DIA",
  "GONALxjLOWERiaRUPEE MARKoaSIGNiaCURRENCY NUMERATOR ONE#aTWO$aHREE#aFOUR#bONE LESS THAN THE DEN",
  "OMINATOraDENOMINATOR SIXTEENiaISSHARiaGANDA MARKiaLETTER VEDIC ANUSVARAiaABBREVIATION SIGNiaSA",
  "NDHI MARK~A01aaGURMUKHI SIGN ADAK BINDIofoaVISARGA~A05jbLETTER raAqaIraIqaUraU~A0FqaEEqaAI~A13",
  "qaOOqaAUqaKArbHqbGrbHqbNGqbCrbHqbJrbHqbNYqbTTsbHqbDDsbHqbNNqbTrbHqbDrbHqbN~A2AqbPrbHqbBrbHqbMq",
  "bYqbR~A32qbLrbL~A35qbVqbSH~A38rbqbH~A3CjbSIGN NUKT~A3EjbVOWEL SIGN AuaIvaIuaUvaU~A47uaEEuaAI~A",
  "4BuaOOuaAUjaSIGN VIRAMA~A51oaUDAAT~A59jaLETTER KHHAqdGqbZqbRR~A5EqbF~A66jaDIGIT ZEROpaONEpaTWO",
  "qaHREEpaFOURqaIVEpaSIXqaEVENpaEIGHTpaNINEjaTIPPIjaADDAKjaIRIjaURAjaEK ONKARjaSIGN YAKASHjaABBR",
  "EVIATION SIGN~A81caJARATI SIGN CANDRABINDUoaANUSVARAobVISARG~A85jbLETTER raAqaIraIqaUraUqaVOCA",
  "LIC RyaLjaVOWEL CANDRA E~A8FjcLETTERqaAIjaVOWEL CANDRA O~A93jcLETTERqaAUqaKArbHqbGrbHqbNGqbCrb",
  "HqbJrbHqbNYqbTTsbHqbDDsbHqbNNqbTrbHqbDrbHqbN~AAAqbPrbHqbBrbHqbMqbYqbR~AB2qbLrbL~AB5qbVqbSHrbSr",
  "bqbH~ABCjbSIGN NUKTobAVAGRAHjbVOWEL SIGN AuaIvaIuaUvaUuaVOCALIC R%aRuaCANDRA E~AC7ubuaAIuaCAND",
  "RA O~ACBubuaAUjaSIGN VIRAMA~AD0jaOM~AE0jaLETTER VOCALIC RRyaLLjbVOWEL SIGN VOCALIC %aL~AE6jaDI",
  "GIT ZEROpaONEpaTWOqaHREEpaFOURqaIVEpaSIXqaEVENpaEIGHTpaNINEjaABBREVIATION SIGNjfRUPEE~AF9jaLET",
  "TER ZHAjaSIGN SUKUNpaHADDAoaMADDAHoaTHREE-DOT NUKTA ABOVEomCIRCLEosTWO-~B01aaORIYA SIGN CANDRA",
  "BINDUlaANUSVARAlbVISARG~B05gbLETTER oaAnaIoaInaUoaUnaVOCALIC RvaL~B0FnaEnaAI~B13naOnaAUnaKAobH",
  "nbGobHnbNGnbCobHnbJobHnbNYnbTTpbHnbDDpbHnbNNnbTobHnbDobHnbN~B2AnbPobHnbBobHnbMnbYnbR~B32nbLobL",
  "~B35nbVnbSHobSobnbH~B3CgbSIGN NUKTlbAVAGRAHgbVOWEL SIGN AraIsaIraUsaUraVOCALIC R!aR~B47raEraAI",
  "~B4BraOraAUgaSIGN VIRAMA~B55laOVERLINEgaAI LENGTH MARKhmU~B5CgaLETTER RRAobH~B5FnbYYnaVOCALIC ",
  "RRvaLLgbVOWEL SIGN VOCALIC !aL~B66gaDIGIT ZEROmaONEmaTWOnaHREEmaFOURnaIVEmaSIXnaEVENmaEIGHTmaN",
  "INEgaISSHARgaLETTER WAgaFRACTION ONE QUARTERtaHALFpaTHREE QUARTERSpaONE SIXTEENTHtcEIGHpaTHREE",
  " SIXTEENTHS~B82aaTAMIL SIGN ANUSVARAlbVISARG~B85gbLETTER oaAnaIoaInaUoaU~B8EnaEoaEnaAI~B92naOo",
  "aOnaAUnaKA~B99nbNGnbC~B9CnbJ~B9EnbNYnbTT~BA3nbNNnbT~BA8nbNobNNnbP~BAEnbMnbYnbRobRnbLobLpbLnbVn",
  "bSHobSobnbH~BBEgbVOWEL SIGN AraIsaIraUsaU~BC6raEsaEraAI~BCAraOsaOraAUgaSIGN VIRAMA~BD0gaOM~BD7",
  "gaAU LENGTH MARK~BE6gaDIGIT ZEROmaONEmaTWOnaHREEmaFOURnaIVEmaSIXnaEVENmaEIGHTmaNINEgaNUMBER TE",
  "NnaONE HUNDREDrbTHOUSANgaDAY SIGNgfMONTHgfYEARgfDEBITghCREDgfAS ABOVEggRUPEgfNUMBER~C00baELUGU",
  " SIGN COMBINING CANDRABINDU ABOVEnaANDRABINDUmaANUSVARAmbVISARGmaCOMBINING ANUSVARA ABOVEhaLET",
  "TER ApaAoaIpaIoaUpaUoaVOCALIC RwaL~C0EoaEpaEoaAI~C12oaOpaOoaAUoaKApbHobGpbHobNGobCpbHobJpbHobN",
  "YobTTqbHobDDqbHobNNobTpbHobDpbHobN~C2AobPpbHobBpbHobMobYobRpbRobLpbLqbLobVobSHpbSpbobH~C3ChbSI",
  "GN NUKTmbAVAGRAHhbVOWEL SIGN AsaItaIsaUtaUsaVOCALIC R#aR~C46saEtaEsaAI~C4AsaOtaOsaAUhaSIGN VIR",
  "AMA~C55haLENGTH MARKhlAI ~C58haLETTER TSAobDZobRRR~C5DoaNAKAARA POLLU~C60oaVOCALIC RRwaLLhbVOW",
  "EL SIGN VOCALIC #aL~C66haDIGIT ZEROnaONEnaTWOoaHREEnaFOURoaIVEnaSIXoaEVENnaEIGHTnaNINE~C77haSI",
  "GN SIDDHAMhaFRACTION DIGIT ZERO FOR ODD POWERS OF FOURwxONEwxTWOxxHREEwpONE FOR EVENwyTWOxyHRE",
  "EhaSIGN TUUMUabKANNADA SIGN SPACING CANDRABINDnlnaANUSVARAnbVISARGnaSIDDHAMiaLETTER AqaApaIqaI",
  "paUqaUpaVOCALIC RxaL~C8EpaEqaEpaAI~C92paOqaOpaAUpaKAqbHpbGqbHpbNGpbCqbHpbJqbHpbNYpbTTrbHpbDDrb",
  "HpbNNpbTqbHpbDqbHpbN~CAApbPqbHpbBqbHpbMpbYpbRqbRpbLqbL~CB5pbVpbSHqbSqbpbH~CBCibSIGN NUKTnbAVAG",
  "RAHibVOWEL SIGN AtaIuaItaUuaUtaVOCALIC R$aR~CC6taEuaEtaAI~CCAtaOuaOtaAUiaSIGN VIRAMA~CD5iaLENG",
  "TH MARKilAI ~CDDiaLETTER NAKAARA POLLUpaFA~CE0paVOCALIC RRxaLLibVOWEL SIGN VOCALIC $aL~CE6iaDI",
  "GIT ZEROoaONEoaTWOpaHREEoaFOURpaIVEoaSIXpaEVENoaEIGHToaNINE~CF1iaSIGN JIHVAMULIYAndUPADHMAN~D0",
  "0aaMALAYALAM SIGN COMBINING ANUSVARA ABOVEqaANDRABINDUpaANUSVARApbVISARGkbLETTER VEDIC ANUSVAR",
  "rbsaAraIsaIraUsaUraVOCALIC RzaL~D0EraEsaEraAI~D12raOsaOraAUraKAsbHrbGsbHrbNGrbCsbHrbJsbHrbNYrb",
  "TTtbHrbDDtbHrbNNrbTsbHrbDsbHrbNsbNNrbPsbHrbBsbHrbMrbYrbRsbRrbLsbLtbLrbVrbSHsbSsbrbHrbTTTkbSIGN",
  " VERTICAL BAR VIRAMpjCIRCULpbAVAGRAHkbVOWEL SIGN AvaIwaIvaUwaUvaVOCALIC R&aR~D46vaEwaEvaAI~D4A",
  "vaOwaOvaAUkaSIGN VIRAMAkaLETTER DOT REPHkaSIGN PARA~D54kaLETTER CHILLU MyaYyaLLLkaAU LENGTH MA",
  "RKkaFRACTION ONE ONE-HUNDRED-AND-SIXTIETHxfFORtaTHREE EIGHTIETHStaONE TWENTIETHycENtaTHREE TWE",
  "NTIETHStaONE FIFTHkaLETTER ARCHAIC IIraVOCALIC RRzaLLkbVOWEL SIGN VOCALIC &aL~D66kaDIGIT ZEROq",
  "aONEqaTWOraHREEqaFOURraIVEqaSIXraEVENqaEIGHTqaNINEkaNUMBER TENraONE HUNDREDvbTHOUSANkaFRACTION",
  " ONE QUARTERxaHALFtaTHREE QUARTERStaONE SIXTEENTHxcEIGHtaTHREE SIXTEENTHSkaDATE MARKkaLETTER C",
  "HILLU NNzayaRRyaLzaLyaK~D81aaSINHALA SIGN CANDRABINDUnaANUSVARAYAndVISARG~D85ibLETTER AYANNqfA",
  "qfErfEpfIqfIpfUqfUpgIRsfUqgLsfUpfEqfEpfAIpfOqfOpfAU~D9AqfLPAPRAANA KAppMAHApgALPAPRAANA GppMAH",
  "ApbKANTAJA NAASIKYAYpbSANYAKA GAYANNpgALPAPRAANA CppMAHApgALPAPRAANA JppMAHApbTAALUJA NAASIKYA",
  "YxhSANYOOGA NAAKpbSANYAKA JAYANNpgALPAPRAANA TTpqMAHApgALPAPRAANA DDpqMAHAqgUURDHAJA NpgSANYAK",
  "A DDpgALPAPRAANA TppMAHApgALPAPRAANA DppMAHApgDANTAJA N~DB3pgSANYAKA DpgALPAPRAANA PppMAHApgAL",
  "PAPRAANA BppMAHArfpgAMBA BpgYpgR~DBDpgDANTAJA L~DC0pgVpgTAALUJA SpkMUURDHAplDANTpgHpgMUURDHAJA",
  " LpgF~DCAicSIGN AL-LAKU~DCFibVOWEL SIGN AELA-PILLthKETTI AEDtlDIGAtgKETTI IStjDIGAtgKETTI PAA~",
  "DD6tkDIGA~DD8thGAETTtbKOMBUVthDIGA tbKOMBU DEKybVA HAA AELA-PILL(kDIGA (bGAYANUKITTtl~DE6iaLIT",
  "H DIGIT ZEROtaONEtaTWOuaHREEtaFOURuaIVEtaSIXuaEVENtaEIGHTtaNINE~DF2iaVOWEL SIGN DIGA GAETTA-PI",
  "LLA!bYANUKITTibPUNCTUATION KUNDDALIY~E01aaTHAI CHARACTER KO KAIqcHO KHvaUATvaWAIvaONtaRAKHANGp",
  "aNGO NGUpaCHO CHANvaINGvcApaSO SOpaCHO CHOEpaYO YINGpaDO CHADApaTO PATAKqaHO THANtaNANGMONTHOt",
  "bPHUTHApaNO NENpaDO DEKpaTO TAOqaHO THUNGvaAHANvaONGpaNO NUpaBO BAIMAIpaPO PLAqaHO PHUNGpaFO F",
  "ApaPHO PHANpcFO FpaPHO SAMPHAOpaMO MApaYO YAKpaRO RUAqaUpaLO LINGqaUpaWO WAENpaSO SALAsaRUSIsa",
  "SUApaHO HIPpaLO CHULApaO ANGpaHO NOKHUKpaPAIYANNOIpaSARA ApaMAI HAN-AKATpaSARA AAvaMuaIvaIuaUE",
  "waEvavaUpbPHINTH~E3FgaURRENCY SYMBOL BAHTgaHARACTER SARA EubAuaOuaAI MAIMUAN#aALAIpaLAKKHANGYA",
  "OpaMAIYAMOKsaTAIKHUsa EKtaTHOuaRItaCHATTAWApaTHANTHAKHATpbNIKHAHIpaYAMAKKANpcFONGMfaDIGIT ZERO",
  "laONElaTWOmaHREElaFOURmaIVElaSIXmaEVENlaEIGHTlaNINEfaCHARACTER ANGKHANKHUpaKHOMUT~E81aaLAO LET",
  "TER KOmaHO SUNG~E84paTAM~E86laPALI GHAlaNGOlbClaPALI CHAlaSO TAM~E8ClaPALI JHAlaNYOlaPALI NYAq",
  "bTTsbHqbDDsbHqbNNlaDOlbTmaHO SUNGpaTAMlaPALI DHAlaNOlbBlbPmaHO SUNGlaFO TAMlfPHlaFO SUNGlaPALI",
  " BHAlaMOlbYlaLO LING~EA5paOOT~EA7laWOlaSANSKRIT SHAvbSmaO SUNGlgHlaPALI LLAlaOlaHO TAMeaELLIPS",
  "ISeaVOWEL SIGN ApaMAI KANpaAAqaMpaIqaIpaYqaYpaUqaUeaSIGN PALI VIRAMAeaVOWEL SIGN MAI KONeaSEMI",
  "VOWEL SIGN LOtbNY~EC0eaVOWEL SIGN EqaIpaOpaAYqaI~EC6eaKO LA~EC8eaTONE MAI EKnaTHOoaInaCATAWAea",
  "CANCELLATION MARKeaNIGGAHITA~ED0eaDIGIT ZEROkaONEkaTWOlaHREEkaFOURlaIVEkaSIXlaEVENkaEIGHTkaNIN",
  "E~EDCeaHO NOhbMebLETTER KHMU GqbNY~F00aaTIBETAN SYLLABLE OMiaMARK GTER YIG MGO TRUNCATED A!b-U",
  "M RNAM BCAD M&dGTER TSHEGndINITIAL YIG MGO MDUNndCLOSING YIG MGO SGABodARET YIG MGO PHUR SHADn",
  "iYIG MGO TSHEGnaSBRUL SHADnaBSKUR YIG MGOoiKA- SHOGnaINTERSYLLABIC TSHEGnaDELIMITER TSHEG BSTA",
  "RnaSHADneNYIS nfTSHEGnkNYIS nfRIN CHEN SPUNGSofGYA GRAMnaCARET -DZUD RTAGS ME LONG CANnaGTER T",
  "SHEGiaLOGOTYPE SIGN CHAD RTAGSwgLHAGigASTROLOGICAL SIGN SGRA GCAN -CHAR!a-KHYUD PA!aSDONG TSHU",
  "GSiaSIGN RDEL DKAR GCIGyaNYISyaSUMsaNAG GCIGxaNYISsaDKAR RDEL NAGiaDIGIT ZEROoaONEoaTWOpaHREEo",
  "aFOURpaIVEoaSIXpaEVENoaEIGHToaNINEocHALF OtaTWOuaHREEtaFOURuaIVEtaSIXuaEVENtaEIGHTtaNINEtaZERO",
  "iaMARK BSDUS RTAGSnaNGAS BZUNG NYI ZLAnaCARET -DZUD RTAGS BZHI MIG CANnaNGAS BZUNG SGOR RTAGSn",
  "aCHE MGOnaTSA -PHRUnaGUG RTAGS GYONzaASnaANG KHANG GYONzaASibSIGN YAR TSHEniMiaLETTER KAqbHpbG",
  "qbHpbNGpbCqbHpbJ~F49pbNYpbTTrbHpbDDrbHpbNNpbTqbHpbDqbHpbNpbPqbHpbBqbHpbMpbTSrbHpbDZrbHpbWpbZHq",
  "bpb-pbYpbRpbLpbSHqbSqbpbHpbpbKSSpbFIXED-FORM RpbKKpbRR~F71ibVOWEL SIGN AtaIuaItaUuaUtaVOCALIC ",
  "R$aR#aL$aLtaEuaEtaOuaOibSIGN RJES SU NGA RoaNAM BCADiaVOWEL SIGN REVERSED I%aIiaSIGN NYI ZLA N",
  "AA DAnaSNA LDANiaMARK HALANTAncPALUiaSIGN LCI RTAGSngYANGnaLCE TSA CANneMCHUnaGRU CAN RGYINGSr",
  "iMEDnaINVERTED MCHU CANjeUBJOINED SIGN LCE TSAxeMCHUxiINVERTED saLETTER KA!bHzbG!bHzbNGzbC!bHz",
  "bJ~F99zbNYzbTT#bHzbDD#bHzbNNzbT!bHzbD!bHzbNzbP!bHzbB!bHzbMzbTS#bHzbDZ#bHzbWzbZH!bzb-zbYzbRzbLz",
  "bSH!bS!bzbHzbzbKSSzbFIXED-FORM W.bY.bR~FBEibKU RU KHra BZHI MIG CANiaCANTILLATION SIGN HEAVY B",
  "EAT!fLIGHT!aCANG TE-U!aSBUB -CHALiaSYMBOL DRIL BUpaRDO RJEpaPADMA GDANpaRDO RJE RGYA GRAMpaPHU",
  "R PApaNOR BUva NYIS -KHYILwhGSUMwhBZHI~FCEjaIGN RDEL NAG RDEL DKARwaGSUMiaMARK BSKA- SHOG GI M",
  "GO RGYANnoMNYAM YInaNYIS TSHEGnaINITIAL BRDA RNYING YIG MGO MDUN MAndCLOSING BRDA RNYING YIG M",
  "GO SGABaaRIGHT-FACING SVASTI SIGNauLEFaaRIGHT-FACING SVASTI SIGN WITH DOTSa&LEFabTIBETAN MARK ",
  "LEADING MCHAN RTAGnpTRAIL~1000aaMYANMAR LETTER KAqbHpbGqbHpbNGpbCqbHpbJqbHpbNYqcNpbTTrbHpbDDrb",
  "HpbNNpbTqbHpbDqbHpbNpbPqbHpbBqbHpbMpbYpbRpbLpbWpbSpbHpbLLpbpbSHAN paIqaIpaUqaUpaEpbMON paOpaAU",
  "iaVOWEL SIGN TALL AAtctaIuaItaUuaUtaEtaAItbMON IxaOtaE ABOVEiaSIGN ANUSVARAnaDOT BELOWnaVISARG",
  "ApbRAMnaASATiaCONSONANT SIGN MEDIAL YA&bR&bW&bHibLETTER GREAT SiaDIGIT ZEROoaONEoaTWOpaHREEoaF",
  "OURpaIVEoaSIXpaEVENoaEIGHToaNINEiaSIGN LITTLE SECTIONnhjaYMBOL LOCATIVEpaCOMPLETEDpcAFOREMENTI",
  "ONpaGENITIVEiaLETTER SHAqbSpaVOCALIC RyaRxaLyaLiaVOWEL SIGN VOCALIC R$aR#aL$aLiaLETTER MON NGA",
  "tbJHtbBBvaEiaCONSONANT SIGN MON MEDIAL NA+bM+bLibLETTER SGAW KAREN SHiaVOWEL SIGN SGAW KAREN E",
  "UiaTONE MARK SGAW KAREN HATHI%aKE PHOiaLETTER WESTERN PWO KAREN THA*bPWiaVOWEL SIGN WESTERN PW",
  "O KAREN EU:aUEiaSIGN WESTERN PWO KAREN TONE-1.a2.a3.a4.a5iaLETTER EASTERN PWO KAREN NNA*bYW*cG",
  "HiaVOWEL SIGN GEBA KAREN ItaKAYAH OEzaUzaEEiaLETTER SHAN KAvbHubGubCubZubNYubDubNubPHubFubBubT",
  "HucibCONSONANT SIGN SHAN MEDIAL WibVOWEL SIGN SHAN AyaEza ABOVEyaFINAL YiaSIGN SHAN TONE-2xa3x",
  "a5xa6saCOUNCIL TONE-2(a3!aEMPHATIC TONEiaLETTER RUMAI PALAUNG FAiaSIGN RUMAI PALAUNG TONE-5jaH",
  "AN DIGIT ZEROtaONEtaTWOuaHREEtaFOURuaIVEtaSIXuaEVENtaEIGHTtaNINEjaIGN KHAMTI TONE-1za3iaVOWEL ",
  "SIGN AITON A!aIiaSYMBOL SHAN ONEuaEXCLAMATIONabGEORGIAN CAPITAL LETTER AycBycGybDOybEybVIybZEy",
  "bTAybIybKAyaLASyaMANyaNARyaONyaPARycZHyaRAEyaSANyaTARyaUNyaPHARydKyaGHANyaQARyaSHINydCzbAyaJIL",
  "ycCzaHARyaXANycJHyaHAEzbzbIybWyaHARzaOE~10C7yaYN~10CDybAE~10D0jbLETTER AqcBqcGqbDOqbEqbVIqbZEq",
  "bTAqbIqbKAqaLASqaMANqaNARqaONqaPARqcZHqaRAEqaSANqaTARqaUNqaPHARqdKqaGHANqaQARqaSHINqdCrbAqaJIL",
  "qcCraHARqaXANqcJHqaHAErbrbIqbWqaHARraOEqaFIqaYNqaELIFIqaTURNED GANqbAIjaPARAGRAPH SEPARATORabM",
  "ODIFIER LETTER GEORGIAN NAaaGEORGIAN LETTER AENqbHARD SIGqfLABIALaaHANGUL CHOSEONG KIYEOKqgSSA",
  "NGqaNIEUNqaTIKEUTqgSSANGqaRIEULqaMIEUMqaPIEUPqfSSANGraIOSrdSANGSqaIEUNGqaCIEUCqfSSANGqaCHIEUCH",
  "qbKHIEUKqbTHIEUTqbPHIEUPqbHIEUqaNIEUN-KIYEOKqaSSANGNIEUNqaNIEUN-TIKEUTwaPIEUPqaTIKEUT-KIYEOKqa",
  "RIEUL-NIEUNqaSSANGRIEULqaRIEUL-HIEUHqaKAPYEOUNRIEULqaMIEUM-PIEUPqaKAPYEOUNMIEUMqaPIEUP-KIYEOKw",
  "aNIEUNwaTIKEUTwaSIOS!a-KIYEOK#aTIKEUT#aPIEUPxaSANGSIOSxaIOS-CIEUCwfxaHIEUCHwbTHIEUTwbPHIEUPqaK",
  "APYEOUNPIEUPyfSSANGqaSIOS-KIYEOKvaNIEUNvaTIKEUTvaRIEULvaMIEUMvaPIEUP!a-KIYEOKvaSSANGSIOSvaIEUN",
  "GvaCIEUCwaHIEUCHvbKHIEUKvbTHIEUTvbPHIEUPvbHIEUqaCHITUEUMSIOSzdSANGSreEONGCHIEUM$dSANGSqePANqaI",
  "EUNG-KIYEOKwaTIKEUTwaMIEUMwaPIEUPwaSIOSwePANqaSSANGIEUNGqaIEUNG-CIEUCxaHIEUCHwbTHIEUTwbPHIEUPq",
  "aYESIEUNGqfCIEUC-raHITUEUMCIEUCyfSSANGrfEONGCHIEUM#fSSANGraHIEUCH-KHIEUKHybHIEUtbTUEUMCHIEUCrk",
  "EONGCHIqaPHIEUPH-PIEUPqaKAPYEOUNPHIEUPHqbSSANGHIEUqfYEORINqaKIYEOK-TIKEUTqaNIEUN-SIOSwaCIEUCwa",
  "HIEUHqaTIKEUT-RIEULqaFILLERhmJUNGraAsaEraYAtaEraEOsaraYEOtaraOraWAtaErbOraYOraUraWEOtasaIraYUr",
  "bEraYIrbraA-OtaUraYA-OubYrbEO-uaUubEraYEO-OvaUraO-EOuatbYtaOtaUraYO-YAwaEvaEOubuaIraU-AuaEtaEO",
  "-EUtaYEtaUraYU-AuaEOvauaYEOwauaUuaIraEU-UubErbYI-raI-AtbYtaOtaUtbEtaARAEArfwa-EOxaUxaIraSSANGA",
  "RAEAraA-EUrbYA-saEO-YArevaEiaONGSEONG KIYEOKrgSSANGraKIYEOK-SIOSraNIEUNwa-CIEUCxaHIEUHraTIKEUT",
  "raRIEULwa-KIYEOKxaMIEUMxaPIEUPxaSIOSxaTHIEUTHxbPHIEUPxbHIEUraMIEUMraPIEUPwa-SIOSresdSANGSraIEU",
  "NGraCIEUCsaHIEUCHrbKHIEUKrbTHIEUTrbPHIEUPrbHIEUraKIYEOK-RIEULyaSIOS-KIYEOKrhNIEUNxaTIKEUTxaSIO",
  "SxePANxaTHIEUTHraTIKEUT-KIYEOKyaRIEULraRIEUL-KIYEOK-SIOSxaNIEUNxaTIKEUT%a-HIEUHraSSANGRIEULraR",
  "IEUL-MIEUM-KIYEOK%aSIOSxfPIEUP%aHIEUHxaKAPYEOUNPIEUPxaSSANGSIOSxePANxaKHIEUKHxbYEORINHIEUraMIE",
  "UM-KIYEOKxaRIEULxaPIEUPxaSIOSydSANGSxePANxaCHIEUCHxbHIEUraKAPYEOUNMIEUMraPIEUP-RIEULxaPHIEUPHx",
  "bHIEUraKAPYEOUNPIEUPraSIOS-KIYEOKwaTIKEUTwaRIEULwaPIEUPraPANSIOSraIEUNG-KIYEOKxgSSANGraSSANGIE",
  "UNGraIEUNG-KHIEUKHraYESIEUNGza-SIOS!ePANraPHIEUPH-PIEUPraKAPYEOUNPHIEUPHraHIEUH-NIEUNxaRIEULxa",
  "MIEUMxaPIEUPraYEORINHIEUHraKIYEOK-NIEUNyaPIEUPyaCHIEUCHybKHIEUKybHIEUraSSANGNIEUNaaETHIOPIC SY",
  "LLABLE HAtaUtaItaAAtaEEuataOuaAsbLtaUtaItaAAtaEEuataOtaWAsbHHuaUuaIuaAAuaEEvauaOuaWAsbMtaUtaIt",
  "aAAtaEEuataOtaWAsbSZuaUuaIuaAAuaEEvauaOuaWAsbRtaUtaItaAAtaEEuataOtaWAsbStaUtaItaAAtaEEuataOtaW",
  "AtbHuaUuaIuaAAuaEEvauaOuaWAsbQtaUtaItaAAtaEEuataOuaAtbW~124AuaIuaAAuaEEva~1250taHAuaUuaIuaAAua",
  "EEvauaO~1258uaWA~125AvaIvaAAvaEEwa~1260saBAtaUtaItaAAtaEEuataOtaWAsbVtaUtaItaAAtaEEuataOtaWAsb",
  "TtaUtaItaAAtaEEuataOtaWAsbCtaUtaItaAAtaEEuataOtaWAsbXtaUtaItaAAtaEEuataOuaAtbW~128AuaIuaAAuaEE",
  "va~1290saNAtaUtaItaAAtaEEuataOtaWAtbYuaUuaIuaAAuaEEvauaOuaWAsbGLOTTAL !aU!aI!aAA!aEE#a!aO!aWAs",
  "bKtaUtaItaAAtaEEuataOuaAtbW~12B2uaIuaAAuaEEva~12B8taXAuaUuaIuaAAuaEEvauaO~12C0uaWA~12C2vaIvaAA",
  "vaEEwa~12C8saWAtaUtaItaAAtaEEuataOuaAsbPHARYNGEAL %aU%aI%aAA%aEE&a%aO~12D8saZAtaUtaItaAAtaEEua",
  "taOtaWAtbHuaUuaIuaAAuaEEvauaOuaWAsbYtaUtaItaAAtaEEuataOuaAsbDtaUtaItaAAtaEEuataOtaWAtbDuaUuaIu",
  "aAAuaEEvauaOuaWAsbJtaUtaItaAAtaEEuataOtaWAsbGtaUtaItaAAtaEEuataOuaAtbW~1312uaIuaAAuaEEva~1318t",
  "aGAuaUuaIuaAAuaEEvauaOuaWAAsbTHuaUuaIuaAAuaEEvauaOuaWAsbCHuaUuaIuaAAuaEEvauaOuaWAsbPHuaUuaIuaA",
  "AuaEEvauaOuaWAsbTSuaUuaIuaAAuaEEvauaOuaWAtbZuaUuaIuaAAuaEEvauaOvaAsbFtaUtaItaAAtaEEuataOtaWAsb",
  "PtaUtaItaAAtaEEuataOtaWAsbRYscMscF~135DjaCOMBINING GEMINATION AND VOWEL LENGTH MARKtrtfGEMINAT",
  "IONjjSECjaWORDSPACEjaFULL STOPjaCOMMAjaSEMICOLONjfjfPREFACE jaQUESTION MARKjaPARAGRAPH SEPARAT",
  "ORjaDIGIT ONEpaTWOqaHREEpaFOURqaIVEpaSIXqaEVENpaEIGHTpaNINEjaNUMBER TENraWENTYrcHIRqdFOrcIFqcS",
  "IXrcEVENqcEIGHqcNINEqaHUNDREDqbTEN THOUSAN~1380jaSYLLABLE SEBATBEIT MWAsaMWIuaEEvasaSEBATBEIT ",
  "BWAsaBWIuaEEvasaSEBATBEIT FWAsaFWIuaEEvasaSEBATBEIT PWAsaPWIuaEEvajaTONAL MARK YIZETucDERuaRIK",
  "RIKugSHORT uaDIFATucKENubCHIREucHIDufDERET-ubKUR~13A0aaCHEROKEE LETTER AqaEqaIqaOqaUqaVqaGAqbK",
  "qaGEraIraOraUraVqaHAraEraIraOraUraVqaLAraEraIraOraUraVqaMAraEraIraOraUqaNAqcHqaNAHraEraIraOraU",
  "raVqaQUAsaEsaIsaOsaUsaVqaSAraraEraIraOraUraVqaDAqbTqaDEqbTqaDIqbTqaDOraUraVraLAqcTsaEsaIsaOsaU",
  "saVraSAsaEsaIsaOsaUsaVqaWAraEraIraOraUraVqaYAraEraIraOraUraVqbM~13F8jaSMALL LETTER YExaIxaOxaU",
  "xaVwbM~1400baANADIAN SYLLABICS HYPHENtaEtaAAItbuaItaOuaOtcY-CREE taCARRIER EE#aItaAuaAtaWEvaST",
  "-CREE WEuaIubEST-CREE WubIucEST-CREE WuaOubEST-CREE WubOucEST-CREE WteNASKAPItaWAubEST-CREE Wu",
  "bAucEST-CREE WteNASKAPItaAItaY-CREE WtaGLOTTAL STOPtaFINAL ACUTEzbGRAVzaBOTTOM HALF RINGzkTOPz",
  "kRIGHT#czaDOUBLE ACUTE)aSHORT VERTICAL STROKESzaMIDDLE DOTzaSHORT HORIZONTAL STROKEzaPLUSzaDOW",
  "N TACKtaENtbItbOtbAtaPEuaAAIubvaIuaOvaOtdY-CREE taCARRIER HEE$aItaPAvaAuaWEtdWEST-CREE taPWItd",
  "WEST-CREE tbPWIteWEST-CREE taPWOtdWEST-CREE tbPWOteWEST-CREE taPWAtdWEST-CREE tbPWAteWEST-CREE",
  " tkYtaPtbWEST-CREE taCARRIER HtaTEuaAAIubvaIuaOvaOtdY-CREE taCARRIER DEE$aItaTAvaAuaWEtdWEST-C",
  "REE taTWItdWEST-CREE tbTWIteWEST-CREE taTWOtdWEST-CREE tbTWOteWEST-CREE taTWAtdWEST-CREE tbTWA",
  "teWEST-CREE tfNASKAPItaTuaTEvaIvaOvaAtaKEuaAAIubvaIuaOvaOtdY-CREE taKAvaAuaWEtdWEST-CREE taKWI",
  "tdWEST-CREE tbKWIteWEST-CREE taKWOtdWEST-CREE tbKWOteWEST-CREE taKWAtdWEST-CREE tbKWAteWEST-CR",
  "EE tfNASKAPItaKuaWtaSOUTH-SLAVEY KEH*bI*bO*bAtaCEuaAAIubvaIuaOvaOtdY-CREE taCAvaAuaWEtdWEST-CR",
  "EE taCWItdWEST-CREE tbCWIteWEST-CREE taCWOtdWEST-CREE tbCWOteWEST-CREE taCWAtdWEST-CREE tbCWAt",
  "eWEST-CREE tfNASKAPItaCtaSAYISI THtaMEuaAAIubvaIuaOvaOtdY-CREE taMAvaAuaWEtdWEST-CREE taMWItdW",
  "EST-CREE tbMWIteWEST-CREE taMWOtdWEST-CREE tbMWOteWEST-CREE taMWAtdWEST-CREE tbMWAteWEST-CREE ",
  "tfNASKAPItaMtbWEST-CREE taMHtaATHAPASCAN MtcSAYISItaNEuaAAIubvaIuaOvaOtdY-CREE taNAvaAuaWEtdWE",
  "ST-CREE taNWAtdWEST-CREE tbNWAteWEST-CREE tfNASKAPIuataCARRIER NGtaNHtaLEuaAAIubvaIuaOvaOtdY-C",
  "REE taLAvaAuaWEtdWEST-CREE taLWItdWEST-CREE tbLWIteWEST-CREE taLWOtdWEST-CREE tbLWOteWEST-CREE",
  " taLWAtdWEST-CREE tbLWAteWEST-CREE taLtbWEST-CREE tcMEDIALtaSEuaAAIubvaIuaOvaOtdY-CREE taSAvaA",
  "uaWEtdWEST-CREE taSWItdWEST-CREE tbSWIteWEST-CREE taSWOtdWEST-CREE tbSWOteWEST-CREE taSWAtdWES",
  "T-CREE tbSWAteWEST-CREE tfNASKAPItaStbATHAPASCAN taSWtaBLACKFOOT StaMOOSE-CREE SKtaNASKAPI SKW",
  "$b-$aPWA$cT$cK$cCtaSHEvaIwaIvaOwaOvaAwaAvaWEteWEST-CREE taSHWIteWEST-CREE tbSHWItfWEST-CREE ta",
  "SHWOteWEST-CREE tbSHWOtfWEST-CREE taSHWAteWEST-CREE tbSHWAtfWEST-CREE taSHtaYEuaAAIubvaIuaOvaO",
  "uc-CREE YuaAvaAuaWEtdWEST-CREE taYWItdWEST-CREE tbYWIteWEST-CREE taYWOtdWEST-CREE tbYWOteWEST-",
  "CREE taYWAtdWEST-CREE tbYWAteWEST-CREE tfNASKAPItaYtbBIBLE-CREE thWESTtaSAYISI YItaREub-CREE R",
  "tbWEST-CREE LtaRAAIubvaIuaOvaOtbWEST-CREE LtaRAvaAtbWEST-CREE LtbRWAteWEST-CREE taRtbWEST-CREE",
  " tcMEDIALtaFEuaAAIubvaIuaOvaOuaAvaAucWteWEST-CREE taFtaTHEtdN-CREE taTHItdN-CREE tbTHIteN-CREE",
  " taTHOwaOvaAwaAvcWtfWEST-CREE taTHuaTHEwaIwaOwaAwauaYEvaIvaOvaAtaNUNAVIK HE$aI%aI$aO%aO$aA%aA$",
  "aycUTtaHKtaQAAIubvaIuaOvaOuaAvaAuataTLHEwaIwaOwaAtaWEST-CREE RE&aI&aO&aAtaNGAAIvbwaIvaOwaOvaAw",
  "aAvaubNtaSAYISI SHE$aI$aO$aAtaWOODS-CREE THE)aI)aO)aA)ataLHIwaIvaOwaOvaAwaAvataTH-CREE THE%aI&",
  "aI%aO&aO%aA&aA%ataAIVILIK BtaBLACKFOOT E%aI%aO%aA%aWE&aI&aO&aA%aNE&aI&aO&aA%aKE&aI&aO&aAtaSAYI",
  "SI HE#aI#aO#aAtaCARRIER GHU%aO%aE&aE%aI%aA#aRU$aO$aE%aE$aI$aA#aWU$aO$aE%aE$aI$aA#aHWU%aO%aE&aE",
  "%aI%aA#aTHU%aO%aE&aE%aI%aA$aTU%aO%aE&aE%aI%aA#aPU$aO$aE%aE$aI$aA$a#aGU$aO$aE%aE$aI$aA#aKHU%aO%",
  "aE&aE%aI%aA$aKU%aO%aE&aE%aI%aA%a#aNU$aO$aE%aE$aI$aA#aMU$aO$aE%aE$aI$aA#aYU$aO$aE%aE$aI$aA#aJUt",
  "dSAYISItaCARRIER JO$aE%aE$aItdSAYISItaCARRIER JA$aJU%aO%aE&aE%aI%aA#aLU$aO$aE%aE$aI$aA#aDLU%aO",
  "%aE&aE%aI%aA#aLHU%aO%aE&aE%aI%aA#aTLHU&aO&aE(aE&aI&aA%aU%aO%aE&aE%aI%aA#aZU$aO$aE%aE$aI$aA$a#b",
  "INITIAL #aDZU%aO%aE&aE%aI%aA#aSU$aO$aE%aE$aI$aA$aHU%aO%aE&aE%aI%aA%a#aTSU%aO%aE&aE%aI%aA#aCHU%",
  "aO%aE&aE%aI%aA#aTTSU&aO&aE(aE&aI&aAuaHI SIGNtaFULL STOPtaQAItcNGubNGxaIwaOxaOwaAxaAtaWOODS-CRE",
  "E THWEE*aI+aI*aO+aO*aA+aA&aFINAL THtaBLACKFOOT WaaOGHAM SPACE MARKgaLETTER BEITHnaLUISnaFEARNn",
  "aSAILnaNIONnaUATHnaDAIRnaTINNEnaCOLLoaEIRTnaMUINnaGORTnaNGEADALnaSTRAIFnaRUISnaAILMnaONNnaURna",
  "EADHADHnfIOneEABnaORnaUILLEANNnbIFInaEAMHANCHOLLnaPEITHgaFEATHER MARKgmREVERSED ~16A0aaRUNIC L",
  "ETTER FEHU FEOH FE FnaVnaURUZ UR UnaYRoanaWnaTHURISAZ THURS THORNnaETHnaANSUZ AnaOS OnaAC AoaE",
  "SCnaLONG-BRANCH-OSS OngSHORT-TWIGnboaEoaNnaRAIDO RAD REID RnaKAUNAnaCENnaKAUN KnaGnbENnbGEBO G",
  "YFU oaARnaWUNJO WYNN WnaHAGLAZ HpcEGLndLONG-BRANCH-HAGALnjSHORT-TWIGnaNAUDIZ NYD NAUD NngSHORT",
  "-TWIG-nbDOTTED-naISAZ IS ISS InaEnaJERAN JnaGERnaLONG-BRANCH-AR AEnaSHORT-TWIG-AR AnaIWAZ EOHn",
  "aPERTHO PEORTH PnaALGIZ EOLHXnaSOWILO SocIGEL LONG-BRANCH-SOLogHORT-TWIGnaCnaZnaTIWAZ TIR TYR ",
  "TnfSHORT-TWIG-naDnaBERKANAN BEORC BJARKAN BnjSHORT-TWIG-naDOTTED-PncOPENnaEHWAZ EH EnaMANNAZ M",
  "AN MncLONG-BRANCH-MADRnhSHORT-TWIGnaLAUKAZ LAGU LOGR LnbDOTTED-naINGWAZqanaDAGAZ DAEG DnaOTHAL",
  "AN ETHEL OnaEARnbIOnaCWEORTHoaALCodEnaSTANnaLONG-BRANCH-YRndSHORT-TWIGndICELANDICnaQnaXgaSINGL",
  "E PUNCTUATIONgoMULTIPgmCROSSgaARLAUG SYMBOLghTVIMADURgiBELGTHOgaLETTER KnaSHnaOOnaFRANKS CASKE",
  "T OS#bI#aEH#aAC$bES~1700aaTAGALOG LETTER ApaIpaUpaKApbGpcNpbTpbDpbNpbPpbBpbMpbYpbRpbLpbWpbSpbH",
  "iaVOWEL SIGN ItaUiaSIGN VIRAMAnaPAMUDPOD~171FiaLETTER ARCHAIC RAabHANUNOO LETTER paIpaUpaKApbG",
  "pcNpbTpbDpbNpbPpbBpbMpbYpbRpbLpbWpbSpbHiaVOWEL SIGN ItaUiaSIGN PAMUDPODaaPHILIPPINE SINGLE PUN",
  "CTUATIONloDOUB~1740aaBUHID LETTER AnaInaUnaKAnbGncNnbTnbDnbNnbPnbBnbMnbYnbRnbLnbWnbSnbHgaVOWEL",
  " SIGN IraU~1760aaTAGBANWA LETTER AqaIqaUqaKAqbGqcNqbTqbDqbNqbPqbBqbMqbY~176EqbLqbWqbS~1772jaVO",
  "WEL SIGN IuaU~1780aaKHMER LETTER KAobHoaOobHnbNGnaCAobHoaOobHnbNYnaDAnbTTHnaDOnbTTHnbNNnaTAobH",
  "oaOobHnbNnaBAnbPHoaOobHnbMnbYnbRnbLnbVnaSHAoaSOoaAnbHnbLnbQgaINDEPENDENT VOWEL QAQ!aAzaI!aIzaU",
  "!aK!aU#aVyaRY!aYybL!aYyaQEzaAIzaOO TYPE ONE*aTWOzaAUgaVOWEL INHERENT AQwaAmdSIGNraIsaIraYsaYra",
  "UsaUsaAraOEraYAraIErbrbAsaIraOOraAUgaSIGN NIKAHITlaREAHMUKlaYUUKALEAPINTUlaMUUSIKATOANlaTRIISA",
  "PlaBANTOClaROBATlcTOANDAKHIlcKAKABlaAHSDAlbSAMYOK SANNYlaVIRIAMlaCOENGlaBATHAMASATlaKHANlcBARI",
  "YOOSlaCAMNUC PII KUUHlaLEK TOOlaBEYYALlaPHNAEK MUANlaKOOMUUTgaCURRENCY SYMBOL RIELgaSIGN AVAKR",
  "AHASANYAmaTTHACAN~17E0gaDIGIT ZEROmaONEmaTWOnaHREEmaFOURnaIVEmaSIXnaEVENmaEIGHTmaNINE~17F0gaSY",
  "MBOL LEK ATTAK SONxaMUOYxaPIIxbBEyaUONxaPRAM#a-MUOY$aPII$bBE%aUON~1800aaMONGOLIAN BIRGAkaELLIP",
  "SISkaCOMMAkaFULL STOPkaCOLONkaFOUR DOTSkaTODO SOFT HYPHENkaSIBE SYLLABLE BOUNDARY MARKERkaMANC",
  "HU COMMAraFULL STOPkaNIRUGUkaFREE VARIATION SELECTOR ONE+aTWO,aHREEkaVOWEL SEPARATORkbFREE VAR",
  "IATION SELECTOR FOUkaDIGIT ZEROqaONEqaTWOraHREEqaFOURraIVEqaSIXraEVENqaEIGHTqaNINE~1820kaLETTE",
  "R AraEraIraOraUraOErbUrbEraNAraANGraBArbPrbQrbGrbMrbLrbSsbHrbTrbDrbCHrbJrbYrbRrbWrbFrbKsbHrbTS",
  "rbZrbHArbZRrbLHraZHIrcCraTODO LONG VOWEL SIGNwaEwaIwaOwaUwaOEwbUwaANGwaBAwbPwbQwbGwbMwbTwbDwbC",
  "HwbJwbTSwbYwbWwbKwbGAwcHwbJIwcNwbDZraSIBE EwaIxaYwaUExawaANGwaKAwbGwbHwbPwbSHwbTwbDwbJwbFwbGAw",
  "cHwbTSwbZwbRAwbCHwcZraMANCHU IyaKAybRybFybZHraCHA WITH TWO DOTS~1880raALI GALI ANUSVARA ONE!fV",
  "ISARG!aDAMARU!aUBADAMA!hINVERTED !bBALUD!gTHREE !b!aI!aKA!bNG!bC!bTT$bH!bDD!bNN!bT!bD!bP#bH!bS",
  "S!bZH#b!aAHraTODO ALI GALI TA(bZHrcMANCHU ALI GALI G*bNG*bC*bJH*bTT*bDDH*bT*bDH*bSS*bCY*bZH+br",
  "aALI GALI HALF U(aYArbMANCHU ALI GALI BHrbALI GALI DAGALGrbMANCHU ALI GALI LH~18B0aaCANADIAN S",
  "YLLABICS OYtbAubAtcWtbPOubAubWOtbTAtcKucWtcMtbNOubAtcLtbSOubAubHOvbAvbWOtcYubAtcRtaNWItdOJIBWA",
  "Y tbNWIteOJIBWAY taNWOtdOJIBWAY tbNWOteOJIBWAY taRWEEvaIwaIvaOwaOvaAtaOJIBWAY P#aT#aK#aC#aM#aN",
  "#aS$aHtaEASTERN WthWEtaFINAL SMALL RINGzaRAISED DOTtaR-CREE RWEtaWEST-CREE LOO&aAAtaTHWEwaAuaT",
  "HWEwaOOwaAAuaLHWEwaOOtaSAYISI SHWE$aOO!dtaCARRIER GWU#aDENE GEE#aGAA$bWtaSAYISI JUUtaCARRIER J",
  "WAtaBEAVER DENE L(aRtaCARRIER DENTAL S~1900aaLIMBU VOWEL-CARRIER LETTERgaLETTER KAobHnbGobHnbN",
  "GnbCobHnbJobHnaYANnaTAobHnbDobHnbNnbPobHnbBobHnbMnbYnbRnbLnbWnbSHobSobnbHnaGYANnaTRA~1920gbVOW",
  "EL SIGN raIraUraEEraAIraOOraAUraEraOgaSUBJOINED LETTER YAxbRxbW~1930hbMALL LETTER KtbNGtbANUSV",
  "ARtbTtbNtbPtbMtbRtbLhaIGN MUKPHRENGlgKEMlaSA-I~1940laLOO~1944gaEXCLAMATION MARKgjQUESgaDIGIT Z",
  "EROmaONEmaTWOnaHREEmaFOURnaIVEmaSIXnaEVENmaEIGHTmaNINEaaTAI LE LETTER KAobXobNGobTSocobYobTpbH",
  "obLobPpbHobMobFobVobHobQobKHocTSobNoboaIoaEEpaHoaUoaOOpaoaUEobobAUpaI~1970oaTONE-2ta3ta4ta5ta6",
  "~1980aaNEW TAI LUE LETTER HIGH QAtdLOWtbHIGH KybXybNGtbLOW KxbXxbNGtbHIGH TSycybYtbLOW TSxcxbY",
  "tbHIGH TzbHybNtbLOW TybHxbNtbHIGH PzbHybMtbLOW PybHxbMtbHIGH FybVybLtbLOW FxbVxbLtbHIGH HybDyb",
  "BtbLOW HxbDxbBtbHIGH KVycXtcLOW KxcXtbHIGH SUteLOW~19B0maVOWEL SIGN VOWEL SHORTENERxaAAxaIIxaU",
  "yaUxaExbAxaOyaAxaUExaAYybAxbUxbOybAxbUExbImaLETTER FINAL VzaNG!azaMzaKzaDzaBmaTONE MARK-1wa2~1",
  "9D0maDIGIT ZEROsaONEsaTWOtaHREEsaFOURtaIVEsaSIXtaEVENsaEIGHTsaNINEmcTHAM DIGIT O~19DEmbSIGN LA",
  "uaVaaKHMER SYMBOL PATHAMASATnbMUOY KOEnfPIIngBEofUONnfPRAMrf-MUOYsfPIIsgBEtfUONnfDAPqf-MUOYrfP",
  "IIrgBEsfUONrfPRAMnbTUTEYASAnaMUOY ROCnePIInfBEoeUONnePRAMre-MUOYsePIIsfBEteUONneDAPqe-MUOYrePI",
  "IrfBEseUONrePRAMaaBUGINESE LETTER KAqbGqcNsbKqbPqbBqbMrbPqbTqbDqbNrbRqbCqbJqbNYsbCqbYqbRqbLqbV",
  "qbSqbqbHjaVOWEL SIGN IuaUuaEuaOuaAE~1A1EjaPALLAWAjaEND OF SECTIONaaTAI THAM LETTER HIGH KAwbHw",
  "bXqbLOW KvbXvbHqbNGqbHIGH CwbHqbLOW CubSubCHqbNYqbRATqbHIGH RATHqbDqbLOW RATHqbRANqbHIGH TwbHq",
  "bLOW TvbHqbNqbBqbHIGH PwbHvbFqbLOW PubFubPHqbMqbLOW YqdHIGHqbRraUEqaLAraUEqaWAqbHIGH SHwbSwbvb",
  "HqbLLqbqbLOW HqaIraIqaUraUqaEEqaOOqaLAEqaGREAT SAjbCONSONANT SIGN MEDIAL R(bLyaLA TANG LAIjhSI",
  "GN MAI KjaCONSONANT SIGN FINAL NGAybLOW PygHIGH RATHA OR ybMybBybS~1A60jaSIGN SAKOTjaVOWEL SIG",
  "N AuaMAI SATuaAAucTALL uaIvaIuaUEvbUvavaUuaOvaA BELOWvaYuaEubAuaOOuaAIucTHAM uaOA ABOVEjaSIGN ",
  "MAI KANGoaTONE-1ta2oaKHUEN TONE-3za4za5oaRA HAAMocMAI SoaKHUEN-LUE KARAN~1A7FjaCOMBINING CRYPT",
  "OGRAMMIC DOTjaHORA DIGIT ZEROuaONEuaTWOvaHREEuaFOURvaIVEuaSIXvaEVENuaEIGHTuaNINE~1A90jaTHAM DI",
  "GIT ZEROuaONEuaTWOvaHREEuaFOURvaIVEuaSIXvaEVENuaEIGHTuaNINE~1AA0jaSIGN WIANGtaWAAKoaSAWANoaKEO",
  "WoaHOYoaDOKMAIoaREVERSED ROTATED RANAoaMAI YAMOKoaKAANsaKUUoaSATKAANvaKUUoaHANGodCA~1AB0aaCOMB",
  "INING DOUBLED CIRCUMFLEX ACCENTlaIAERESIS-RINGkaINFINITYkaDOWNWARDS ARROWkaTRIPLE DOTkaX-X BEL",
  "OWkgWIGGLY LINEkgOPEN MARKkpDOUBLE kgLIGHT CENTRALIZATION STROKEk$STRONGkaPARENTHESES ABOVEkrD",
  "OUBLE kaPARENTHESES BELOWwaOVERLAYkaLATIN SMALL LETTER W BELOW%hTURNED laEFT PARENTHESIS ABOVE",
  " LEFTkbRIGHT PARENTHESIS ABOVE RIGHkbLEFT PARENTHESIS BELOW LEFkbRIGHT PARENTHESIS BELOW RIGHk",
  "aSQUARE BRACKETS ABOVEkgNUMBER SIGNkgINVERTED DOUBLE ARCHkgPLUS SIGNkpDOUBLE #aBELOWkaTRIPLE A",
  "CUTE ACCENTkaLATIN SMALL LETTER INSULAR G:aR:aT~1B00aaBALINESE SIGN ULU RICEMsaCANDRAoaCECEKoa",
  "SURANGoaBISAHjaLETTER AKARAva TEDUNGqaIKARAva TEDUNGqaUKARAva TEDUNGqaRA REPAxa TEDUNGqaLA LEN",
  "GAya TEDUNGqaEKARAqeAIqeOva TEDUNGqaKAsa MAHAPRANAqbGsa GORAqbNGqbCsa LACAqbJsa JERAqbNYqaTA L",
  "ATIKtaMURDA MAHAPRANAqgDA MURDA ALPzgMAHqaNA RAMBATqaTAsa TAWAqbDsa MADUqaNAqbPsa KAPALqaBAsa ",
  "KEMBANGqaMAqbYqbRqbLqbWqbSA SAGvbPsaqbHjaSIGN REREKANjaVOWEL SIGN TEDUNGuaULUxa SARIuaSUKUya I",
  "LUTuaRA REPA#a TEDUNGuaLA LENGA$a TEDUNGucTALI!a REPA#aTEDUNG#gREPA uaPEPETza TEDUNGjbADEG ADE",
  "jaLETTER KAF SASAKrgHOTqgTZIRqgEFqgVEqgZALqgASYURAraRCHAIC JNYA~1B50jaDIGIT ZEROpaONEpaTWOqaHR",
  "EEpaFOURqaIVEpaSIXqaEVENpaEIGHTpaNINEjaPANTIlaMADAjaWINDUjaCARIK PAMUNGKAHpaSIKIpaPARERENjaPAM",
  "ENENGjcMUSICAL SYMBOL DOzcEzcUzcA$a SURANGzcIzcAEzcEUzcAI!aNG GEDEyaCOMBINING TEGEH+aENDEP+aKE",
  "MPUL;aLI+aJEGOGAN+hKEMPUL WITH ;nLI+aBENDE+aGONGybRIGHT-HAND OPEN DU?bA,aCLOSED TUK[bAyaLEFT-H",
  "AND OPEN PANG>cU+aCLOSED PLAK[bU+aOPEN PINGjcPANTI LANTAliMADA~1B80aaSUNDANESE SIGN PANYECEKsa",
  "GLAYARtaWISADkaLETTER AraIraUraAEraOraEsaUraKArbQrbGrcNrbCrbJrbZrbNYrbTrbDrbNrbPrbFrbVrbBrbMrb",
  "YrbRrbLrbWrbSrbXrbHkaCONSONANT SIGN PAMINGKAL#aNYAKRA%aIKUkbVOWEL SIGN PANGHULybYUKyaAELAENGyc",
  "OLOxaMEPETxaNEULEUNGkaSIGN PAMAAEHpaVIRAMAkcCONSONANT SIGN PASANGAN +bWkbLETTER KHrbSYkaDIGIT ",
  "ZEROqaONEqaTWOraHREEqaFOURraIVEqaSIXraEVENqaEIGHTqaNINEkaAVAGRAHAkaLETTER REUrcLraBHAraFINAL K",
  "xaMaaBATAK LETTER AnbSIMALUNGUN nbHncSIMALUNGUN ndMANDAILINGnbBncKARO nbPncSIMALUNGUN nbNncMAN",
  "DAILING nbWncSIMALUNGUN ndPAKPAKnbGncSIMALUNGUN nbJnbDnbRncSIMALUNGUN nbMncSIMALUNGUN obOUTHER",
  "N TniNORnbSobIMALUNGUN SndMANDAILINGnbYncSIMALUNGUN nbNGnbLncSIMALUNGUN nbNYnbCnbNDnbMBnaInaUg",
  "aSIGN TOMPIgaVOWEL SIGN ErbPAKPAK rbEraIrbKARO raOrbKARO raUsa FOR SIMALUNGUN SAgaCONSONANT SI",
  "GN NGvaHgaPANGOLATjaONGONAN~1BFCgaSYMBOL BINDU NA METEKtaPINARBORAStaJUDULtaPANGOLATaaLEPCHA L",
  "ETTER KApbLpbHobGpbLobNGobCpbHobJobNYobTpbHobDobNobPpbLpbHobFpbLobBpbLobMpbLobTSqbHobDZobYobRo",
  "bLobHpbLobVobSpbHobWobhbSUBJOINED LETTER YybRhbVOWEL SIGN AsaIsaOtaOsaUtaUsaEhaCONSONANT SIGN ",
  "KwaMwaLwaNwaPwaRwaTwaNYIN-DOwaKANGhaSIGN RANmaNUKTA~1C3BhaPUNCTUATION TA-ROLtgNYET THYOOM taCE",
  "R-WAtgTSHOOK zahaDIGIT ZEROnaONEnaTWOoaHREEnaFOURoaIVEnaSIXoaEVENnaEIGHTnaNINE~1C4DhaLETTER TT",
  "AqbHobDDaaOL CHIKI DIGIT ZEROpaONEpaTWOqaHREEpaFOURqaIVEpaSIXqaEVENpaEIGHTpaNINEjaLETTER LAqaA",
  "TraGrbNraLqaLAAqaAAKsaJsaMsaWqaLIqaISraHraNYraRqaLUqaUCraDraNNraYqaLEqaEPraDDraNraRRqaLOqaOTTr",
  "aBraVraHjaMU TTUDDAGjcGAAHLAA TTUDDAjqMU-jaRELAAjcPHAARKjaAHADjcPUNCTUATION MUCAvgDOUBLE aaCYR",
  "ILLIC SMALL LETTER ROUNDED VEwbLONG-LEGGED DwaNARROW OwaWIDE ESwaTALL TExdHREE-LEGGEDxaALL HAR",
  "D SIGN#aYATwaUNBLENDED UK~1C90aaGEORGIAN MTAVRULI CAPITAL LETTER AN*cB*cG*bDO*bE*bVI*bZE*bTA*b",
  "I*bKA*aLAS*aMAN*aNAR*aON*aPAR*cZH*aRAE*aSAN*aTAR*aUN*aPHAR*dK*aGHAN*aQAR*aSHIN*dC+bA*aJIL*cC+a",
  "HAR*aXAN*cJH*aHAE+b+bI*bW*aHAR+aOE*aFI*aYN*aELIFI*aTURNED GAN*bAI~1CBD+bE*bHARD SIG*fLABIALaaS",
  "UNDANESE PUNCTUATION BINDU SURYA$aPANGLONG%aURNAMA$bCAKR$bLEU SATANG$iKA$jD$jB~1CD0abVEDIC TON",
  "E KARSHANlbSHARlbPRENKHgbSIGN NIHSHVASlbYAJURVEDIC MIDLINE SVARITgiTONE YAJURVEDIC AGGRAVATED ",
  "INDEPENDENTwtwtKATHAKA laCANDRA BELOWlaYAJURVEDIC KATHAKA INDEPENDENT SVARITA SCHROEDERlaDOUBL",
  "E SVARITAlkTRIPlcKATHAKA ANUDATlaDOT BELOWlgTWO DOTSmlHREElaRIGVEDIC KASHMIRI INDEPENDENT SVAR",
  "ITAluATHARVAVEDICgiSIGN VISARGAtcUDATloREVERSED lgVISARGA ANlqREVERSED laVISARGA UDATTA WITH T",
  "AILtqANlaANUSVARA ANTARGOMUKHAuiBAHIuhVAMA(a WITH TAILlaTIRYAKlaHEXIFORM LONG ANUSVARAlnlnRTHA",
  "NG lbANUSVARA UBHAYATO MUKHmbRDHAVISARGlmROTATED gaTONE CANDRA ABOVEgaSIGN JIHVAMULIYAldUPADHM",
  "ANlbATIKRAMgaTONE RING ABOVElkDOUBLE gaSIGN DOUBLE ANUSVARA ANTARGOMUKHA~1D00abLATIN LETTER SM",
  "ALL CAPITAL $aEgdSMALL LETTER TURNEDgaLETTER SMALL CAPITAL BARRED B#aC#aD#aETH$agcSMALL LETTER",
  " TURNED OPEN!aIgaLETTER SMALL CAPITAL J#aK#aL WITH STROKE#aM#aREVERSED N#aO$aPEN OgcSMALL LETT",
  "ER SIDEWAYS%aPEN O%a WITH STROKEtbTURNED OgaLETTER SMALL CAPITAL OUgaSMALL LETTER TOP HALF Oth",
  "BOTTOMgaLETTER SMALL CAPITAL P#aREVERSED R#eTURN$a#aUgcSMALL LETTER SIDEWAYS$bDIAERESIZED $aTU",
  "RNED MgaLETTER SMALL CAPITAL V#aW#aZ#aEZHnaVOICED LARYNGEAL SPIRANTnaAINaaGREEK LETTER SMALL C",
  "APITAL GAMMA#bLAMD#aPI#aRHO#aPSIaaCYRILLIC LETTER SMALL CAPITAL ELaaMODIFIER LETTER CAPITAL Az",
  "aEyaBzaARRED ByaDyaEybREVERSED yaGyaHyaIyaJyaKyaLyaMyaNybREVERSED yaOzaUyaPyaRyaTyaUyaWqaSMALL",
  " AwbTURNED wbALPHwaTURNED AEwaBwaDwaEwaSCHWAwaOPEN EwgTURNED waGwaTURNED IwaKwaMwaENGwaOxaPEN ",
  "OwcTOP HALFwhBOTTOMwaPwaTwaUwbSIDEWAYS waTURNED MwaVwaAINwaBETAwbGREEK GAMMwbDELTwaGREEK PHIwc",
  "CabLATIN SUBSCRIPT SMALL LETTER %aR%aU%aVaaGREEK SUBSCRIPT SMALL LETTER BETA%bGAMM%aRHO%aPHI%c",
  "CaaLATIN SMALL LETTER UEtbB WITH MIDDLE TILDtsDtsFtsMtsNtsPtsR!mFISHHOOK AND tnS WITHtsTtsZtaT",
  "URNED GaaMODIFIER LETTER CYRILLIC ENaaLATIN SMALL LETTER INSULAR GtaTH WITH STRIKETHROUGHmaCAP",
  "ITAL LETTER I WITH STROKEmmLETTER IOTAtmPmmCAPITAL LETTER UmmLETTER UPSILONtaB WITH PALATAL HO",
  "OKtsDtsFtsGtsKtsLtsMtsNtsPtsRtsStsESHtsVtsXtsZtfA WITH RETROFLEXuuLPHAtaD WITH HOOK AND TAILta",
  "E WITH RETROFLEX HOOKtvOPEN t!REVERSED tuSCHWAtuItuOPEN OtuESHtuUtuEZHaaMODIFIER LETTER SMALL ",
  "TURNED ALPHAwaCxa WITH CURLwaETHwaREVERSED OPEN EwaFwaDOTLESS J WITH STROKEwaSCRIPT GwaTURNED ",
  "HwaI WITH STROKExaOTAwaCAPITAL I(a WITH STROKEwaJ WITH CROSSED-TAILwaL WITH RETROFLEX HOOK%fPA",
  "LATALwaCAPITAL LwaM WITH HOOKwaTURNED M WITH LONG LEGwaN WITH LEFT HOOK%fRETROFLEXwaCAPITAL Nw",
  "aBARRED OwaPHIwaS WITH HOOKwaESHwaT WITH PALATAL HOOKwaU BARxaPSILONwaCAPITAL UwaV WITH HOOKwa",
  "TURNED VwaZxa WITH RETROFLEX HOOK%aCURLwaEZHwaTHETAaaCOMBINING DOTTED GRAVE ACCENTriACUTkaSNAK",
  "E BELOWlaUSPENSION MARKkaMACRON-ACUTEkaGRAVE-MACRONkaMACRON-GRAVEkaACUTE-MACRONkaGRAVE-ACUTE-G",
  "RAVEkbACUTE-GRAVE-ACUTkaLATIN SMALL LETTER R BELOWkaBREVE-MACRONkaMACRON-BREVEkcDOUBLE CIRCUMF",
  "LEX ABOkgOGONEKkaZIGZAG BELOWkgISkaUR ABOVElgSkgLATIN SMALL LETTER FLATTENED OPEN A%bA&aO&aV%a",
  "C CEDILLA%aINSULAR D%aETH%aGqcLETTER SMALL CAPITALqaSMALL LETTER K%aLqcLETTER SMALL CAPITAL:aM",
  "qaSMALL LETTER NqcLETTER SMALL CAPITAL:aRqaSMALL LETTER R ROTUNDA%aS%bLONG %aZ%aALPHA%aB&aETA%",
  "bSCHW%aF%aL WITH DOUBLE MIDDLE TILDE%bO WITH LIGHT CENTRALIZATION STROK%aP%aESH%aU WITH LIGHT ",
  "CENTRALIZATION STROKE%aW%aA WITH DIAERESIS%pO%pUkaUP TACK ABOVEkaKAVYKA ABOVE RIGHTxbLEFklDOTk",
  "aWIDE INVERTED BRIDGE BELOWkaDOT BELOW LEFTlaELETION MARKlaOUBLE INVERTED BREVE BELOWkgALMOST ",
  "EQUAL TOkaLEFT ARROWHEAD ABOVEkaRIGHT ARROWHEAD AND DOWN ARROWHEAD BELOWagLATIN CAPITAL LETTER",
  " A WITH RINGg!SMALgaCAPITAL LETTER B WITH DOT ABOVEgzSMALgaCAPITAL LETTER B WITH DOT BELOWgzSM",
  "ALggCAPITAL LETTER B WITH LINEg!SMALgaCAPITAL LETTER C WITH CEDILLA AND ACUTEg*SMALgbCAPITAL L",
  "ETTER D WITH DOT ABOVgzSMALgaCAPITAL LETTER D WITH DOT BELOWgzSMALggCAPITAL LETTER D WITH LINE",
  "g!SMALgaCAPITAL LETTER D WITH CEDILLAgxSMALgaCAPITAL LETTER D WITH CIRCUMFLEX BELOWg)SMALgaCAP",
  "ITAL LETTER E WITH MACRON AND GRAVEg)SMALgbCAPITAL LETTER E WITH MACRON AND ACUTg)SMALgaCAPITA",
  "L LETTER E WITH CIRCUMFLEX BELOWg)SMALggCAPITAL LETTER E WITH TILDEg#SMALgaCAPITAL LETTER E WI",
  "TH CEDILLA AND BREVEg*SMALgcCAPITAL LETTER F WITH DOT ABOgzSMALgaCAPITAL LETTER G WITH MACRONg",
  "wSMALgaCAPITAL LETTER H WITH DOT ABOVEgzSMALgaCAPITAL LETTER H WITH DOT BELOWgzSMALgaCAPITAL L",
  "ETTER H WITH DIAERESISgzSMALgaCAPITAL LETTER H WITH CEDILLAgxSMALgaCAPITAL LETTER H WITH BREVE",
  " BELOWg#SMALghCAPITAL LETTER I WITH TILDg#SMALgaCAPITAL LETTER I WITH DIAERESIS AND ACUTEg,SMA",
  "LggCAPITAL LETTER K WITHgvSMALgaCAPITAL LETTER K WITH DOT BELOWgzSMALggCAPITAL LETTER K WITH L",
  "INEg!SMALggCAPITAL LETTER L WITH DOTgzSMALgaCAPITAL LETTER L WITH DOT BELOW AND MACRONg.SMALga",
  "CAPITAL LETTER L WITH LINE BELOWg!SMALggCAPITAL LETTER L WITH CIRCUMFLEXg)SMALgaCAPITAL LETTER",
  " M WITH ACUTEgvSMALgbCAPITAL LETTER M WITH DOT ABOVgzSMALgaCAPITAL LETTER M WITH DOT BELOWgzSM",
  "ALgaCAPITAL LETTER N WITH DOT ABOVEgzSMALgaCAPITAL LETTER N WITH DOT BELOWgzSMALggCAPITAL LETT",
  "ER N WITH LINEg!SMALggCAPITAL LETTER N WITH CIRCUMFLEXg)SMALgaCAPITAL LETTER O WITH TILDE AND ",
  "ACUTEg(SMALgaCAPITAL LETTER O WITH TILDE AND DIAERESISg,SMALgaCAPITAL LETTER O WITH MACRON AND",
  " GRAVEg)SMALgbCAPITAL LETTER O WITH MACRON AND ACUTg)SMALggCAPITAL LETTER P WITHgvSMALgbCAPITA",
  "L LETTER P WITH DOT ABOVgzSMALgpCAPITAL LETTER RgzSMALgaCAPITAL LETTER R WITH DOT BELOWgzSMALg",
  "aCAPITAL LETTER R WITH DOT BELOW AND MACRONg.SMALgaCAPITAL LETTER R WITH LINE BELOWg!SMALgaCAP",
  "ITAL LETTER S WITH DOT ABOVEgzSMALgaCAPITAL LETTER S WITH DOT BELOWgzSMALgaCAPITAL LETTER S WI",
  "TH ACUTE AND DOT ABOVEg,SMALgoCAPITAL LETTER S WITH CARONg,SMALgoCAPITAL LETTER S WITH DOT BEL",
  "OWg<SMALgkCAPITAL LETTER T WITHgzSMALgaCAPITAL LETTER T WITH DOT BELOWgzSMALggCAPITAL LETTER T",
  " WITH LINEg!SMALggCAPITAL LETTER T WITH CIRCUMFLEXg)SMALggCAPITAL LETTER U WITH DIAERESISg(SMA",
  "LggCAPITAL LETTER U WITH TILDEg#SMALggCAPITAL LETTER U WITH CIRCUMFLEXg)SMALgaCAPITAL LETTER U",
  " WITH TILDE AND ACUTEg(SMALgaCAPITAL LETTER U WITH MACRON AND DIAERESISg.SMALgaCAPITAL LETTER ",
  "V WITH TILDEgvSMALgaCAPITAL LETTER V WITH DOT BELOWgzSMALgaCAPITAL LETTER W WITH GRAVEgvSMALgb",
  "CAPITAL LETTER W WITH ACUTgvSMALgaCAPITAL LETTER W WITH DIAERESISgzSMALgaCAPITAL LETTER W WITH",
  " DOT ABOVEgzSMALgaCAPITAL LETTER W WITH DOT BELOWgzSMALgaCAPITAL LETTER X WITH DOT ABOVEgzSMAL",
  "gaCAPITAL LETTER X WITH DIAERESISgzSMALgaCAPITAL LETTER Y WITH DOT ABOVEgzSMALgaCAPITAL LETTER",
  " Z WITH CIRCUMFLEXg!SMALgaCAPITAL LETTER Z WITH DOT BELOWgzSMALggCAPITAL LETTER Z WITH LINEg!S",
  "MALtqHtaT WITH DIAERESIStaW WITH RING ABOVEtqYtaA WITH RIGHT HALF RINGtaLONG S WITH DOT ABOVE)",
  "bIAGONAL STROK(hHIGHgaCAPITAL LETTER SHARP SgaSMALL LETTER DELTAgaCAPITAL LETTER A WITH DOT BE",
  "LOWgzSMALgaCAPITAL LETTER A WITH HOOK ABOVEg!SMALgbCAPITAL LETTER A WITH CIRCUMFLEX AND ACUTg.",
  "SMALgbCAPITAL LETTER A WITH CIRCUMFLEX AND GRAVg.SMALgcCAPITAL LETTER A WITH CIRCUMFLEX AND HO",
  "OK ABOg?SMALgbCAPITAL LETTER A WITH CIRCUMFLEX AND TILDg.SMALgaCAPITAL LETTER A WITH CIRCUMFLE",
  "X AND DOT BELOWg>SMALgaCAPITAL LETTER A WITH BREVE AND ACUTEg(SMALgbCAPITAL LETTER A WITH BREV",
  "E AND GRAVg(SMALgcCAPITAL LETTER A WITH BREVE AND HOOK ABOg.SMALgbCAPITAL LETTER A WITH BREVE ",
  "AND TILDg(SMALgaCAPITAL LETTER A WITH BREVE AND DOT BELOWg,SMALgkCAPITAL LETTER E WITHgzSMALga",
  "CAPITAL LETTER E WITH HOOK ABOVEg!SMALgbCAPITAL LETTER E WITH TILDgvSMALgbCAPITAL LETTER E WIT",
  "H CIRCUMFLEX AND ACUTg.SMALgbCAPITAL LETTER E WITH CIRCUMFLEX AND GRAVg.SMALgcCAPITAL LETTER E",
  " WITH CIRCUMFLEX AND HOOK ABOg?SMALgbCAPITAL LETTER E WITH CIRCUMFLEX AND TILDg.SMALgaCAPITAL ",
  "LETTER E WITH CIRCUMFLEX AND DOT BELOWg>SMALgaCAPITAL LETTER I WITH HOOK ABOVEg!SMALgaCAPITAL ",
  "LETTER I WITH DOT BELOWgzSMALgpCAPITAL LETTER OgzSMALgaCAPITAL LETTER O WITH HOOK ABOVEg!SMALg",
  "bCAPITAL LETTER O WITH CIRCUMFLEX AND ACUTg.SMALgbCAPITAL LETTER O WITH CIRCUMFLEX AND GRAVg.S",
  "MALgcCAPITAL LETTER O WITH CIRCUMFLEX AND HOOK ABOg?SMALgbCAPITAL LETTER O WITH CIRCUMFLEX AND",
  " TILDg.SMALgaCAPITAL LETTER O WITH CIRCUMFLEX AND DOT BELOWg>SMALgaCAPITAL LETTER O WITH HORN ",
  "AND ACUTEg&SMALgbCAPITAL LETTER O WITH HORN AND GRAVg&SMALgcCAPITAL LETTER O WITH HORN AND HOO",
  "K ABOg,SMALgbCAPITAL LETTER O WITH HORN AND TILDg&SMALgaCAPITAL LETTER O WITH HORN AND DOT BEL",
  "OWg+SMALgkCAPITAL LETTER U WITHgzSMALgaCAPITAL LETTER U WITH HOOK ABOVEg!SMALgbCAPITAL LETTER ",
  "U WITH HORN AND ACUTg&SMALgbCAPITAL LETTER U WITH HORN AND GRAVg&SMALgcCAPITAL LETTER U WITH H",
  "ORN AND HOOK ABOg,SMALgbCAPITAL LETTER U WITH HORN AND TILDg&SMALgaCAPITAL LETTER U WITH HORN ",
  "AND DOT BELOWg+SMALgaCAPITAL LETTER Y WITH GRAVEgvSMALgaCAPITAL LETTER Y WITH DOT BELOWgzSMALg",
  "aCAPITAL LETTER Y WITH HOOK ABOVEg!SMALgbCAPITAL LETTER Y WITH TILDgvSMALgaCAPITAL LETTER MIDD",
  "LE-WELSH LLgySMALgaCAPITAL LETTER MIDDLE-WELSH VgxSMALgaCAPITAL LETTER Y WITH LOOPguSMALaaGREE",
  "K SMALL LETTER ALPHA WITH PSILI&aDASIA&cPSILI AND VAR&kDASIA&cPSILI AND OX&jDASIA&aPSILI AND P",
  "ERISPOMENI&qDASIAgbCAPITAL LETTER ALPHA WITH PSIL)aDASIA)cPSILI AND VAR)kDASIA)cPSILI AND OX)j",
  "DASIA)aPSILI AND PERISPOMENI)qDASIAgbSMALL LETTER EPSILON WITH PSIL)aDASIA)cPSILI AND VAR)kDAS",
  "IA)cPSILI AND OX)jDASIA~1F18gaCAPITAL LETTER EPSILON WITH PSILI+aDASIA+cPSILI AND VAR+kDASIA+c",
  "PSILI AND OX+jDASIA~1F20gaSMALL LETTER ETA WITH PSILI$aDASIA$cPSILI AND VAR$kDASIA$cPSILI AND ",
  "OX$jDASIA$aPSILI AND PERISPOMENI$qDASIAgbCAPITAL LETTER ETA WITH PSIL&aDASIA&cPSILI AND VAR&kD",
  "ASIA&cPSILI AND OX&jDASIA&aPSILI AND PERISPOMENI&qDASIAgbSMALL LETTER IOTA WITH PSIL%aDASIA%cP",
  "SILI AND VAR%kDASIA%cPSILI AND OX%jDASIA%aPSILI AND PERISPOMENI%qDASIAgbCAPITAL LETTER IOTA WI",
  "TH PSIL(aDASIA(cPSILI AND VAR(kDASIA(cPSILI AND OX(jDASIA(aPSILI AND PERISPOMENI(qDASIAgbSMALL",
  " LETTER OMICRON WITH PSIL)aDASIA)cPSILI AND VAR)kDASIA)cPSILI AND OX)jDASIA~1F48gaCAPITAL LETT",
  "ER OMICRON WITH PSILI+aDASIA+cPSILI AND VAR+kDASIA+cPSILI AND OX+jDASIA~1F50gaSMALL LETTER UPS",
  "ILON WITH PSILI)aDASIA)cPSILI AND VAR)kDASIA)cPSILI AND OX)jDASIA)aPSILI AND PERISPOMENI)qDASI",
  "A~1F59gaCAPITAL LETTER UPSILON WITH DASIA~1F5B<a AND VARIA~1F5D]cOX~1F5F]aPERISPOMENIgbSMALL L",
  "ETTER OMEGA WITH PSIL&aDASIA&cPSILI AND VAR&kDASIA&cPSILI AND OX&jDASIA&aPSILI AND PERISPOMENI",
  "&qDASIAgbCAPITAL LETTER OMEGA WITH PSIL)aDASIA)cPSILI AND VAR)kDASIA)cPSILI AND OX)jDASIA)aPSI",
  "LI AND PERISPOMENI)qDASIAgaSMALL LETTER ALPHA WITH VARIA&cOXtcEPSILON WITH VAR)cOXucTA WITH VA",
  "R$cOXtcIOTA WITH VAR%cOXtcOMICRON WITH VAR)cOXtcUPSILON WITH VAR)cOXtcOMEGA WITH VAR&cOX~1F80t",
  "aALPHA WITH PSILI AND YPOGEGRAMMENI&sDASIA&uPSILI AND VAR&$DASIA&uPSILI AND OX&#DASIA&sPSILI A",
  "ND PERISPOMENI&+DASIAgkCAPITAL LETTER ALPHA WITH PSILI AND PROS)tDASIA)vPSILI AND VAR)%DASIA)v",
  "PSILI AND OX)$DASIA)tPSILI AND PERISPOMENI),DASIAgkSMALL LETTER ETA WITH PSILI AND YPO$sDASIA$",
  "uPSILI AND VAR$$DASIA$uPSILI AND OX$#DASIA$sPSILI AND PERISPOMENI$+DASIAgkCAPITAL LETTER ETA W",
  "ITH PSILI AND PROS&tDASIA&vPSILI AND VAR&%DASIA&vPSILI AND OX&$DASIA&tPSILI AND PERISPOMENI&,D",
  "ASIAgkSMALL LETTER OMEGA WITH PSILI AND YPO&sDASIA&uPSILI AND VAR&$DASIA&uPSILI AND OX&#DASIA&",
  "sPSILI AND PERISPOMENI&+DASIAgkCAPITAL LETTER OMEGA WITH PSILI AND PROS)tDASIA)vPSILI AND VAR)",
  "%DASIA)vPSILI AND OX)$DASIA)tPSILI AND PERISPOMENI),DASIAgaSMALL LETTER ALPHA WITH VRACHY&aMAC",
  "RON&aVARIA AND YPOGEGRAMMENI&n&nOXIA AND ~1FB6&ePERISPO?a AND YPOGEGRAMMENIgaCAPITAL LETTER AL",
  "PHA WITH VRACHY)aMACRON)aVARIA)cOX)aPROSGEGRAMMENIgaKORONISgaPROSGEGRAMMENIhbSILhbERISPOMENglD",
  "IALYTIKA AND geSMALL LETTER ETA WITH VARIA AND YPOGEGRAM$n$nOXIA AND ~1FC6$ePERISPO<a AND YPOG",
  "EGRAMMENIgaCAPITAL LETTER EPSILON WITH VARIA+cOXwcTA WITH VAR&cOX&aPROSGEGRAMMENIgaPSILI AND V",
  "ARIAqcOXqaPERISPOMENIgaSMALL LETTER IOTA WITH VRACHY%aMACRON%aDIALYTIKA AND VARIA[cOX~1FD6%aPE",
  "RISPOMENI%lDIALYTIKA AND gaCAPITAL LETTER IOTA WITH VRACHY(aMACRON(aVARIA(cOX~1FDDgcDASIA AND ",
  "VARqcOXqaPERISPOMENIgaSMALL LETTER UPSILON WITH VRACHY)aMACRON)aDIALYTIKA AND VARIA_cOXtaRHO W",
  "ITH PSILI$aDASIAtaUPSILON WITH PERISPOMENI)lDIALYTIKA AND gaCAPITAL LETTER UPSILON WITH VRACHY",
  "+aMACRON+aVARIA+cOXvcRHO WITH DASgcDIALYTIKA AND VARucOXgcVAR~1FF2gaSMALL LETTER OMEGA WITH VA",
  "RIA AND YPOGEGRAMMENI&n&nOXIA AND ~1FF6&ePERISPO?a AND YPOGEGRAMMENIgaCAPITAL LETTER OMICRON W",
  "ITH VARIA+cOXxcEGA WITH VAR)cOX)aPROSGEGRAMMENIgaOXIAgcDAS~2000aaEN QUADbfMbaN SPACEbgMaiTHREE",
  "-PER-anFOURanSIXagFIGUREagPUNCTUATIONahTHIagHAIRagZERO WIDTHlaNON-JOINERlgaaLEFT-TO-RIGHT MARK",
  "agRIGHT-TO-LEFaaHYPHENagNON-BREAKING aaFIGURE DASHafENbfMaaHORIZONTAL BARaaDOUBLE VERTICAL LIN",
  "EhfLOWaaLEFT SINGLE QUOTATION MARKaxRIGHapSINGLE LOW-9hrHIGH-REVERSEDapLEFT DOUBLEaxRIGHapDOUB",
  "LE LOW-9hrHIGH-REVERSEDbaAGGERbfOUBLE DaaBULLETagTRIANGULAR aaONE DOT LEADERalTWOaaHORIZONTAL ",
  "ELLIPSISbaYPHENATION POINTaaLINE SEPARATORakPARAGRAPHaaLEFT-TO-RIGHT EMBEDDINGalRIGHT-TO-LEFad",
  "POP DIRECTIONAL FORMATTaaLEFT-TO-RIGHT OVERRIDEakRIGHT-TO-LEFabNARROW NO-BREAK SPACaaPER MILLE",
  " SIGNefTEN THOUSANDbaRIMEafDOUBLE aiTRIPagREVERSEDjfDOUBLE jiTRIPaaCARETaaSINGLE LEFT-POINTING",
  " ANGLE QUOTATION MARKh(RIGHafREFERENCEafDOUBLE EXCLAMATIONaaINTERROBANGaaOVERLINEabUNDERTIadCH",
  "ARACTER baARET INSERTION POINTaaASTERISMaaHYPHEN BULLETaaFRACTION SLASHaaLEFT SQUARE BRACKET W",
  "ITH QUILLa#RIGHaaDOUBLE QUESTION MARKajQUESTION EXCLAMAajEXCLAMATION QUESaaTIRONIAN SIGN ETaaR",
  "EVERSED PILCROW SIGNaaBLACK LEFTWARDS BULLETgnRIGHaaLOW ASTERISKaaREVERSED SEMICOLONaaCLOSE UP",
  "aaTWO ASTERISKS ALIGNED VERTICALLYaaCOMMERCIAL MINUS SIGNaaSWUNG DASHaaINVERTED UNDERTIEaaFLOW",
  "ER PUNCTUATION MARKaaTHREE DOT PUNCTUATIONaaQUADRUPLE PRIMEaaFOUR DOT PUNCTUATIONbqIVEaqTWOaaF",
  "OUR DOT MARKaaDOTTED CROSSaaTRICOLONaaVERTICAL FOUR DOTSaaMEDIUM MATHEMATICAL SPACEaaWORD JOIN",
  "ERaaFUNCTION APPLICATIONaaINVISIBLE TIMESkaSEPARATORkaPLUS~2066aaLEFT-TO-RIGHT ISOLATEajRIGHT-",
  "TO-LEFaiFIRST STRONGaiPOP DIRECTIONALaaINHIBIT SYMMETRIC SWAPPINGatACTIVATEaeINHIBIT ARABIC FO",
  "RM SHAauACTIVATEaaNATIONAL DIGIT SHAPESbqOMIaaSUPERSCRIPT ZEROmaLATIN SMALL LETTER I~2074maFOU",
  "RnaIVEmaSIXnaEVENmaEIGHTmaNINEmaPLUS SIGNmaMINUSmaEQUALS SIGNmaLEFT PARENTHESISmnRIGHmaLATIN S",
  "MALL LETTER NcaBSCRIPT ZEROkaONEkaTWOlaHREEkaFOURlaIVEkaSIXlaEVENkaEIGHTkaNINEkaPLUS SIGNkaMIN",
  "USkaEQUALS SIGNkaLEFT PARENTHESISknRIGH~2090aaLATIN SUBSCRIPT SMALL LETTER A%aE%aO%aX%aSCHWA%a",
  "H%aK%aL%aM%aN%aP%aS%aT~20A0aaEURO-CURRENCY SIGNafCOLONbfRUZEIROafFRENCH FRANCafLIRAafMILLafNAI",
  "RAagPESETafRUPEEafWONafNEW SHEQELafDONGafEUROafKIPafTUGRIKafDRACHMAafGERMAN PENNYafPESOafGUARA",
  "NIafAUSTRALafHRYVNIAafCEDIafLIVRE TOURNOISafSPESMILOafTENGEagINDIAN RUPEafTURKISH LIRAafNORDIC",
  " MARKafMANATafRUBLEafLARIafBITCOINafSOM~20D0aaCOMBINING LEFT HARPOON ABOVEkpRIGHkaLONG VERTICA",
  "L LINE OVERLAYkwSHORTkaANTICLOCKWISE ARROW ABOVEkvkmLEFTknRIGHmaNG OVERLAYkmCLOCKWISE kwANTIka",
  "THREE DOTS ABOVEklFOURkbENCLOSING CIRCLubSQUARuaDIAMONDuaCIRCLE BACKSLASHkaLEFT RIGHT ARROW AB",
  "OVEkaENCLOSING SCREENuaKEYCAPuaUPWARD POINTING TRIANGLEkaREVERSE SOLIDUS OVERLAYkiDOUBLE VERTI",
  "CAL STROKEkaANNUITY SYMBOLkaTRIPLE UNDERDOTkaWIDE BRIDGE ABOVEkaLEFTWARDS ARROW OVERLAYliONG D",
  "OUBLE SOLIDUSkaRIGHTWARDS HARPOON WITH BARB DOWNWARDSk+LEFoa ARROW BELOWknRIGHkaASTERISK ABOVE",
  "~2100aaACCOUNT OFbaDDRESSED TO THE SUBJECTaaDOUBLE-STRUCK CAPITAL CbaEGREE CELSIUSaaCENTRE LIN",
  "E SYMBOLbaARE OFcaDA UNAaaEULER CONSTANTaaSCRUPLEaaDEGREE FAHRENHEITaaSCRIPT SMALL GhaCAPITAL ",
  "HakBLACK-LETTERakDOUBLE-STRUCKaaPLANCK CONSTANTpa OVER TWO PIabSCRIPT CAPITAL akBLACK-LETTERaa",
  "SCRIPT CAPITAL LhdSMALabL B BAR SYMBOaaDOUBLE-STRUCK CAPITAL NabNUMERO SIGaaSOUND RECORDING CO",
  "PYRIGHTbaCRIPT CAPITAL PakDOUBLE-STRUCKwaQaaSCRIPT CAPITAL RakBLACK-LETTERakDOUBLE-STRUCKaaPRE",
  "SCRIPTION TAKEabRESPONSaaSERVICE MARKaaTELEPHONE SIGNbfRADE MARKaaVERSICLEaaDOUBLE-STRUCK CAPI",
  "TAL ZaaOUNCE SIGNbfHMaiINVERTED aaBLACK-LETTER CAPITAL ZaaTURNED GREEK SMALL LETTER IOTAaaKELV",
  "IN SIGNafANGSTROMaaSCRIPT CAPITAL BaaBLACK-LETTER CAPITAL CaaESTIMATED SYMBOLaaSCRIPT SMALL Eh",
  "dCAPITApaFakTURNEDaaSCRIPT CAPITAL MhaSMALL OaaALEF SYMBOLahBETahGIMELahDALETaaINFORMATION SOU",
  "RCEaaROTATED CAPITAL QaaFACSIMILE SIGNaaDOUBLE-STRUCK SMALL PIuaGAMMAohCAPITAwaPIoaN-ARY SUMMA",
  "TIONaaTURNED SANS-SERIF CAPITAL G!aLaxREVERSaaTURNED SANS-SERIF CAPITAL YaaDOUBLE-STRUCK ITALI",
  "C CAPITAL DvdSMAL#aE#aI#aJaaPROPERTY LINEaaTURNED AMPERSANDaaPER SIGNaaAKTIESELSKABaaTURNED SM",
  "ALL FaaSYMBOL FOR SAMARITAN SOURCEaaVULGAR FRACTION ONE SEVENTHudNIudTEvaHIRDqaTWO THIRDSqaONE",
  " FIFTHqaTWO FIFTHSrhHREEqhFOURqaONE SIXTHqaFIVE SIXTHSqaONE EIGHTHqaTHREE EIGHTHSqjFIVqiSEVENa",
  "aFRACTION NUMERATOR ONEaeROMAN NUMERALoaTWOpaHREEoaFOURpaIVEoaSIXpaEVENoaEIGHToaNINEoaTENocELE",
  "VoaTWELVEoaFIFTYoaONE HUNDREDojFIVobONE THOUSANaaSMALL ROMAN NUMERAL ONEuaTWOvaHREEuaFOURvaIVE",
  "uaSIXvaEVENuaEIGHTuaNINEuaTENucELEVuaTWELVEuaFIFTYuaONE HUNDREDujFIVubONE THOUSANabROMAN NUMER",
  "AL ONE THOUSAND C obFIVE THOUSANojTENobREVERSED ONE HUNDREaaLATIN SMALL LETTER REVERSED CaaROM",
  "AN NUMERAL SIX LATE FORMofFIFTY EARLYuaTHOUSANDojONE HUNDREDaaVULGAR FRACTION ZERO THIRDSaaTUR",
  "NED DIGIT TWOoaHREE~2190aaLEFTWARDS ARROWalUPalRIGHTalDOWNagLEFT RIGHTagUP DOWNagNORTH WESTgiE",
  "AanSOUgiWEaaLEFTWARDS ARROW WITH STROKEayRIGHaaLEFTWARDS WAVE ARROWarRIGHagLEFTWARDS TWO HEADE",
  "DawUPawRIGHTawDOWNaaLEFTWARDS ARROW WITH TAILawRIGHaaLEFTWARDS ARROW FROM BARauUPauRIGHTauDOWN",
  "aaUP DOWN ARROW WITH BASEaaLEFTWARDS ARROW WITH HOOKawRIGHaaLEFTWARDS ARROW WITH LOOPawRIGHaaL",
  "EFT RIGHT WAVE ARROWlaARROW WITH STROKEaaDOWNWARDS ZIGZAG ARROWaaUPWARDS ARROW WITH TIP LEFTWA",
  "RDSxgRIGHagDOWNWARDS ARROW WITH TIP LEFzgRIGHafRIGHTWARDS ARROW WITH CORNER DOWNafDOWNWARDS AR",
  "ROW WITH CORNER LEFTaaANTICLOCKWISE TOP SEMICIRCLE ARROWa&aaNORTH WEST ARROW TO LONG BARaeLEFT",
  "WARDS ARROW TO BAR OVER RIGHTWARDS ARROW TOaaANTICLOCKWISE OPEN CIRCLE ARROWa#aaLEFTWARDS HARP",
  "OON WITH BARB UPWARDS$fDOWNafUPWARDS HARPOON WITH BARB RIGHT!gLEFafRIGHTWARDS HARPOON WITH BAR",
  "B UP%fDOWNafDOWNWARDS HARPOON WITH BARB RIGHT$gLEFaaRIGHTWARDS ARROW OVER LEFTWARDS ARROWalUPW",
  "ARDS ARROW LEFTWARDS OF DOWNalLEFTWARDS ARROW OVER RIGHTkaPAIRED ARROWSatUPatRIGHTatDOWNaaLEFT",
  "WARDS HARPOON OVER RIGHTWARDS HARPOONaoRIGHTWARDS HARPOON OVER LEFaaLEFTWARDS DOUBLE ARROW WIT",
  "H STROKEez RIGHTazRIGHTWARDSaaLEFTWARDS DOUBLE ARROWasUPasRIGHTasDOWNanLEFT RIGHTanUP DOWNanNO",
  "RTH WESTgpEAauSOUgpWEaiLEFTWARDS TRIPatRIGHaiLEFTWARDS SQUIGGavRIGHaaUPWARDS ARROW WITH DOUBLE",
  " STROKEa&DOWNaaLEFTWARDS DASHED ARROWasUPasRIGHTasDOWNaaLEFTWARDS ARROW TO BARatRIGHaaLEFTWARD",
  "S WHITE ARROWarUParRIGHTarDOWNaaUPWARDS WHITE ARROW FROM BARuaON PEDESTAL(a WITH HORIZONTAL BA",
  "R:gVERTICoaDOUBLE ARROW!a ON PEDESTALabRIGHTWARDS WHITE ARROW FROM WALaaNORTH WEST ARROW TO CO",
  "RNERasSOUTH EAaaUP DOWN WHITE ARROWaaRIGHT ARROW WITH SMALL CIRCLEaaDOWNWARDS ARROW LEFTWARDS ",
  "OF UPWARDS ARROWaaTHREE RIGHTWARDS ARROWSaaLEFTWARDS ARROW WITH VERTICAL STROKEa*RIGHa#LEFT RI",
  "GHTeqWARDS ARROW WITH DOUBLEa>RIGHa+LEFT RIGHTeaWARDS OPEN-HEADED ARROWayRIGHasLEFT RIGHTaaFOR",
  " ALLaaCOMPLEMENTaaPARTIAL DIFFERENTIALaaTHERE EXISTSgaDOES NOT EXISTabEMPTY SEabINCREMENaaNABL",
  "AaaELEMENT OFakNOT AN alSMALLaaCONTAINS AS MEMBERakDOES NOT CONTAINakSMALL CONTAINSaaEND OF PR",
  "OOFaaN-ARY PRODUCTghCOgaSUMMATIONabMINUS SIGff-OR-PLUSaaDOT PLUSbaIVISION SLASHaaSET MINUSaaAS",
  "TERISK OPERATORajRINGajBULLETaaSQUARE ROOTagCUBafFOURTHaaPROPORTIONAL TOaaINFINITYaaRIGHT ANGL",
  "EafafMEASURED agSPHERICALaaDIVIDESbaOES NOT DIVIDEaaPARALLEL TOalNOT aaLOGICAL ANDiaORaaINTERS",
  "ECTIONadUNaaINTEGRALaiDOUBLE alTRIPajCONTOURajSURFACEakVOLUMakCLOCKWISkiCONTOUR a!ANTIaaTHEREF",
  "OREabBECAUSaaRATIOaaPROPORTIONaaDOT MINUSabEXCESaaGEOMETRIC PROPORTIONaaHOMOTHETICaaTILDE OPER",
  "ATORaaREVERSED TILDEaaINVERTED LAZY SaaSINE WAVEaaWREATH PRODUCTaaNOT TILDEagMINUSaaASYMPTOTIC",
  "ALLY EQUAL TOaxNOT alAPPROXIMATEoiBUT NOT ACTUALLY asNEITHER APPROXIMATELY NORajALMOSTapNOT aj",
  "ALMOST EQUAL ORaaTRIPLE TILDEaaALL EQUAL TOadEQUIVALENTanGEOMETRICALLY aaDIFFERENCE BETWEENaaA",
  "PPROACHES THE LIMITaaGEOMETRICALLY EQUAL TOaaAPPROXIMATELY EQUAL TO OR THE IMAGE OFaaIMAGE OF ",
  "OR APPROXIMATELY EQUAL TOaaCOLON EQUALSaaEQUALS COLONaaRING IN EQUAL TOfiadCORRESPONDSaaESTIMA",
  "TESbaQUIANGULAR TOaaSTAR EQUALSaaDELTA EQUAL TOaaEQUAL TO BY DEFINITIONaaMEASURED BYaaQUESTION",
  "ED EQUAL TOajNOTafIDENTICamNOT adSTRICTLY EQUIVALENTadLESS-THAN OR EQUALarGREATERakLESS-THAN O",
  "VEatGREATERajLESS-THAN BUT NOTawGREATERaaMUCH LESS-THANffGREATERabBETWEEaaNOT EQUIVALENT TOeaL",
  "ESS-THANefGREATERbaEITHER LESS-THAN NOR EQUAL TOisGREATERadLESS-THAN OR EQUIVALENTawGREATERaqN",
  "EITHER LESS-THAN NixGREATERaaLESS-THAN OR GREATER-THANafGREATER-THAN OR LESSafNEITHER LESS-THA",
  "N NOR GREATERifGREATER-THAN NOR LESSaaPRECEDESabSUCCEEDaaPRECEDES OR EQUAL TOanSUCCEEDadPRECED",
  "ES OR EQUIVALENTasSUCCEEDaaDOES NOT PRECEDEjaSUCCEEDaaSUBSET OFcgPERagNOT A SUBigPERaaSUBSET O",
  "F OR EQUAL TOcsPERalNEITHER A SUBSET OF NmtPERajSUBSET OF WITH NOTcyPERaaMULTISETia MULTIPLICA",
  "TIONjdUNaaSQUARE IMAGE OFhdORIGINALhaIMAGE OF OR EQUAL TOhpORIGINALhaCAPibUaaCIRCLED PLUSicMIN",
  "ibTIMEiaDIVISION SLASHjaOT OPERATORijRINGijASTERISKiaEQUALSiaDASHaaSQUARED PLUSicMINibTIMEiaDO",
  "T OPERATORaaRIGHT TACKagLEFafDOWNafUPaaASSERTIONaaMODELSaaTRUEaaFORCESaaTRIPLE VERTICAL BAR RI",
  "GHT TURNSTILEaqDOUBLE VERTICAL BAR DOUBLEcbES NOT PROVabNOT TRUabDOES NOT FORCabNEGATED DOUBLE",
  " VERTICAL BAR DOUBLE RIGHT TURNSTILaaPRECEDES UNDER RELATIONaqSUCCEEDaaNORMAL SUBGROUP OFaaCON",
  "TAINS AS NORMAL SUBGROUPaaNORMAL SUBGROUP OF OR EQUAL TOamCONTAINS AS NORMAL SUBGROUPaaORIGINA",
  "L OFadIMAGEaaMULTIMAPaaHERMITIAN CONJUGATE MATRIXaaINTERCALATEaaXORaaNANDbaORaaRIGHT ANGLE WIT",
  "H ARCgaTRIANGLEaaN-ARY LOGICAL ANDoaORgaINTERSECTIONgdUNaaDIAMOND OPERATORbjOTajSTARaaDIVISION",
  " TIMESaaBOWTIEaaLEFT NORMAL FACTOR SEMIDIRECT PRODUCTa+RIGHatLEFTauRIGHbaEVERSED TILDE EQUALSa",
  "aCURLY LOGICAL ORoaANDaaDOUBLE SUBSETjdPERhaINTERSECTIONhdUNaaPITCHFORKaaEQUAL AND PARALLEL TO",
  "aaLESS-THAN WITH DOTaoGREATERaaVERY MUCH LESS-THANkfGREATERanLESS-THAN EQUAL TO ORafGREATER-TH",
  "AN EQUAL TO OR LESSavmfGREATERmaPRECEDESmbSUCCEEDaaDOES NOT PRECEDE OR EQUALjjSUCCEEDaaNOT SQU",
  "ARE IMAGE OF OR EQUAL TOlpORIGINALajSQUARE IMAGE OF OR NOThtORIGINALadLESS-THAN BUT NOT EQUIVA",
  "LENTa#GREATERawPRECEDESaxSUCCEEDaaNOT NORMAL SUBGROUP OFaaDOES NOT CONTAIN AS NORMAL SUBGROUPa",
  "aNOT NORMAL SUBGROUP OF OR EQUAL TOaaDOES NOT CONTAIN AS NORMAL SUBGROUP OR EQUALaaVERTICAL EL",
  "LIPSISalMIDLINE HORIZONTalUP RIGHT DIAGONayDOWNaaELEMENT OF WITH LONG HORIZONTAL STROKEqsVERTI",
  "CAL BAR AT END OFa|SMALL ELEMENT OabELEMENT OF WITH DOT ABOVqaOVERBARaxSMALL afELEMENT OF WITH",
  " UNDqaTWO HORIZONTAL STROKESaaCONTAINS WITH LONG HORIZONTAL STROKEosVERTICAL BAR AT END OFa|SM",
  "ALL CONTAINaaCONTAINS WITH OVERBARavSMALL aaZ NOTATION BAG MEMBERSHIPaaDIAMETER SIGNaaELECTRIC",
  " ARROWaaHOUSEaaUP ARROWHEADakDOWNaaPROJECTIVEbgERSPabWAVY LINaaLEFT CEILINGajRIGHaaLEFT FLOORa",
  "hRIGHaaBOTTOM RIGHT CROPhgLEFagTOP RIGHegLEFaaREVERSED NOT SIGNaaSQUARE LOZENGEaaARCaaSEGMENTc",
  "aCTORabTELEPHONE RECORDEabPOSITION INDICATOaaVIEWDATA SQUAREaaPLACE OF INTEREST SIGNagTURNED N",
  "OaaWATCHaaHOURGLASSaaTOP LEFT CORNEReiRIGHaiBOTTOM LEFhiRIGHaaTOP HALF INTEGRALaoBOTTOMaaFROWN",
  "aaSMILEaaUP ARROWHEAD BETWEEN TWO HORIZONTAL BARSaaOPTION KEYaaERASE TO THE RIGHTaaX IN A RECT",
  "ANGLE BOXaaKEYBOARDaaLEFT-POINTING ANGLE BRACKETayRIGHabERASE TO THE LEFaaBENZENE RINGaaCYLIND",
  "RICITYaaALL AROUND-PROFILEaaSYMMETRYaaTOTAL RUNOUTaaDIMENSION ORIGINaaCONICAL TAPERaaSLOPEabCO",
  "UNTERBORhaSINKaaAPL FUNCTIONAL SYMBOL I-BEAMwaSQUISH QUADwaQUAD EQUAL#aDIVIDE%aAMOND#aJOT#aCIR",
  "CLEwcCIRCLE STI%aJOTwaSLASH BARwjBACKwaQUAD SLASH#fBACK#aLESS-THAN#fGREATERwaLEFTWARDS VANEwlR",
  "IGHwaQUAD LEFTWARDS ARROW#mRIGHwaCIRCLE BACKSLASHwaDOWN TACK UNDERBARxaELTA STILEwaQUAD DOWN C",
  "ARET$aELTAwaDOWN TACK JOTwaUPWARDS VANEwaQUAD UPWARDS ARROWwaUP TACK OVERBARwaDEL STILEwaQUAD ",
  "UP CARET#aDELwaUP TACK JOTwaDOWNWARDS VANEwaQUAD DOWNWARDS ARROWyaOTE UNDERBARwjDELTAxjIAMONDw",
  "jJOTwjCIRCLEwaUP SHOE JOTwaQUOTE QUADwaCIRCLE STARwaQUAD COLONwaUP TACK DIAERESISwkDELwkSTARwk",
  "JOTwkCIRCLEwaDOWN SHOE STILEwlLEFTwaTILDE DIAERESISwkGREATER-THANwaCOMMA BARwaDEL TILDEweZweST",
  "ILE TxaEMICOLON UNDERBARwaQUAD NOT EQUAL#aQUESTIONwaDOWN CARET TILDEwmUPwaIOTAwaRHOwaOMEGAwaAL",
  "PHA UNDERBARwjEPSILONwjIOTAwkOMEGwaALPHAaaNOT CHECK MARKaaRIGHT ANGLE WITH DOWNWARDS ZIGZAG AR",
  "ROWaaSHOULDERED OPEN BOXaaBELL SYMBOLaaVERTICAL LINE WITH MIDDLE DOTaaINSERTION SYMBOLahCONTIN",
  "UOUS UNDERLINEa#DISahEMPHASISahCOMPOSITIONaaWHITE SQUARE WITH CENTRE VERTICAL LINEaaENTER SYMB",
  "OLahALTERNATIVE KEYahHELMaaCIRCLED HORIZONTAL BAR WITH NOTCHiaTRIANGLE DOWNaaBROKEN CIRCLE WIT",
  "H NORTHWEST ARROWaaUNDO SYMBOLahMONOSTABLEahHYSTERESISahOPEN-CIRCUIT-OUTPUT H-TYPEumLahPASSIVE",
  "-PULL-DOWN-OUTPUTnoUPaaDIRECT CURRENT SYMBOL FORM TWOaaSOFTWARE-FUNCTION SYMBOLaaAPL FUNCTIONA",
  "L SYMBOL QUADaaDECIMAL SEPARATOR KEY SYMBOLaaPREVIOUS PAGEafNEXTaaPRINT SCREEN SYMBOLaoCLEARaa",
  "LEFT PARENTHESIS UPPER HOOKraEXTENSIONraLOWER HOOKahRIGHT PARENTHESIS UPPsaEXTENSIONsaLOWER HO",
  "OKaaLEFT SQUARE BRACKET UPPER CORNERuaEXTENSIONuaLOWER CORNERajRIGHT SQUARE BRACKET UPPvaEXTEN",
  "SIONvaLOWER CORNERaaLEFT CURLY BRACKET UPPER HOOKtaMIDDLE PIECEtaLOWER HOOKaaCURLY BRACKET EXT",
  "ENSIONaaRIGHT CURLY BRACKET UPPER HOOKuaMIDDLE PIECEuaLOWER HOOKaaINTEGRAL EXTENSIONakHORIZONT",
  "AL LINEadUPPER LEFT OR LOWER RIGHT CURLY BRACKET SECTgxRIGHT OR LOWER LEFaaSUMMATION TOPkaBOTT",
  "OMaaTOP SQUARE BRACKETapBOTTOMva OVER TOP SQUARE BRACKETaaRADICAL SYMBOL BOTTOMaaLEFT VERTICAL",
  " BOX LINEatRIGHaaHORIZONTAL SCAN LINE-1va3va7va9aaDENTISTRY SYMBOL LIGHT VERTICAL AND TOP RIGH",
  "T.gBOTTOM)aWITH CIRCLExoDOWN AND HORIZONTx#UPxcVERTICAL WITH TRIANGxqDOWN AND HORIZONTx%UPxbVE",
  "RTICAL AND WAVxfDOWN AND HORIZONTAL WITHxzUPxaDOWN AND HORIZONTALxpUPxaVERTICAL AND TOP LEFT.f",
  "BOTTOMabSQUARE FOOaaRETURN SYMBOLahEJECTaaVERTICAL LINE EXTENSIONaaMETRICAL BREVEjaLONG OVER S",
  "HORTjaSHORT OVER LONGjaLONG OVER TWO SHORTSjaTWO SHORTS OVER LONGuaJOINEDkaRISEMEkeETRAjfPENTa",
  "aEARTH GROUNDaaFUSEaaTOP PARENTHESISamBOTTOMaaTOP CURLY BRACKETaoBOTTOMaiTOP TORTOISE SHELLaxB",
  "OTTOMaaWHITE TRAPEZIUMaaBENZENE RING WITH CIRCLEaaSTRAIGHTNESSafFLAaaAC CURRENTaaELECTRICAL IN",
  "TERSECTIONaaDECIMAL EXPONENT SYMBOLaaBLACK RIGHT-POINTING DOUBLE TRIANGLEg!LEFgzUPgzDOWNgaRIGH",
  "T-POINTING DOUBLE TRIANGLE WITH VERTICAL BARg]LEFgnRIGHT-POINTING TRIANGLE WITH DOUBLEaaALARM ",
  "CLOCKaaSTOPWATCHaaTIMER CLOCKaaHOURGLASS WITH FLOWING SANDaaBLACK MEDIUM LEFT-POINTING TRIANGL",
  "EntRIGHnsUPnsDOWNaaDOUBLE VERTICAL BARaaBLACK SQUARE FOR STOPgaCIRCLE FOR RECORDaaPOWER SYMBOL",
  "ggON-OFF ihghSLEEPahOBSERVER EYEabSYMBOL FOR NULlaSTART OF HEADINGuaTEXTliENDtaRANSMISSIONnaQU",
  "IRYlaACKNOWLEDGElaBELLmaACKSPACElaHORIZONTAL TABULATIONlaLINE FEEDlaVERTICAL TABULATIONlaFORM ",
  "FEEDlaCARRIAGE RETURNlaSHIFT OUTraINlaDATA LINK ESCAPEmbEVICE CONTROL ON!aTWO#aHREE!aFOURlaNEG",
  "ATIVE ACKNOWLEDGElbSYNCHRONOUS IDLlaEND OF TRANSMISSION BLOCKlaCANCELlaEND OF MEDIUMlaSUBSTITU",
  "TElbESCAPlaFILE SEPARATORlkGROUPlkRECORDlkUNITlaSPACElbDELETaaBLANK SYMBOLaaOPEN BOXaaSYMBOL F",
  "OR NEWLINElaDELETE FORM TWOllSUBSTITU~2440aaOCR HOOKeaCHAIReaFORKeeINVERTED eaBELT BUCKLEfbOW ",
  "TIfaRANCH BANK IDENTIFICATIONeaAMOUNT OF CHECKeaDASHeaCUSTOMER ACCOUNT NUMBEReaDOUBLE BACKSLAS",
  "H~2460aaCIRCLED DIGIT ONEoaTWOpaHREEoaFOURpaIVEoaSIXpaEVENoaEIGHToaNINEiaNUMBER TENpcELEVpaTWE",
  "LVEqaHIRTEENpfFOUqeIFpeSIXqeEVENpeEIGHpeNINEpaTWENTYaaPARENTHESIZED DIGIT ONEuaTWOvaHREEuaFOUR",
  "vaIVEuaSIXvaEVENuaEIGHTuaNINEoaNUMBER TENvcELEVvaTWELVEwaHIRTEENvfFOUweIFveSIXweEVENveEIGHveNI",
  "NEvaTWENTYaaDIGIT ONE FULL STOPgkTWOhkHREEgkFOURhkIVEgkSIXhkEVENgkEIGHTgkNINEakNUMBER TENhmELE",
  "VhkTWELVEikHIRTEENhpFOUioIFhoSIXioEVENhoEIGHhoNINEhkTWENTYaaPARENTHESIZED LATIN SMALL LETTER A",
  "*aB*aC*aD*aE*aF*aG*aH*aI*aJ*aK*aL*aM*aN*aO*aP*aQ*aR*aS*aT*aU*aV*aW*aX*aY*aZaaCIRCLED LATIN CAP",
  "ITAL LETTER A%aB%aC%aD%aE%aF%aG%aH%aI%aJ%aK%aL%aM%aN%aO%aP%aQ%aR%aS%aT%aU%aV%aW%aX%aY%aZoaSMAL",
  "L LETTER A#aB#aC#aD#aE#aF#aG#aH#aI#aJ#aK#aL#aM#aN#aO#aP#aQ#aR#aS#aT#aU#aV#aW#aX#aY#aZiaDIGIT Z",
  "EROaaNEGATIVE CIRCLED NUMBER ELEVENyaTWELVEzaHIRTEENyfFOUzeIFyeSIXzeEVENyeEIGHyeNINEyaTWENTYaa",
  "DOUBLE CIRCLED DIGIT ONEvaTWOwaHREEvaFOURwaIVEvaSIXwaEVENvaEIGHTvaNINEpaNUMBER TENaaNEGATIVE C",
  "IRCLED DIGIT ZEROaaBOX DRAWINGS LIGHT HORIZONTALnlHEAVYncLIGHT VERTICnjHEAVYncLIGHT TRIPLE DAS",
  "H HORIZONTnxHEAVYncLIGHT TRIPLE DASH VERTICnvHEAVYncLIGHT QUADRUPLE DASH HORIZONTn!HEAVYncLIGH",
  "T QUADRUPLE DASH VERTICnyHEAVYnaLIGHT DOWN AND RIGHTnaDOWN LIGHT AND RIGHT HEAVYsaHEAVY AND RI",
  "GHT LIGHTneHEAVY DOWN AND RnbLIGHT DOWN AND LEFnaDOWN LIGHT AND LEFT HEAVYsaHEAVY AND LEFT LIG",
  "HTnbHEAVY DOWN AND LEFnbLIGHT UP AND RIGHnaUP LIGHT AND RIGHT HEAVYqaHEAVY AND RIGHT LIGHTneHE",
  "AVY UP AND RnbLIGHT UP AND LEFnaUP LIGHT AND LEFT HEAVYqaHEAVY AND LEFT LIGHTnbHEAVY UP AND LE",
  "FnbLIGHT VERTICAL AND RIGHnaVERTICAL LIGHT AND RIGHT HEAVYnaUP HEAVY AND RIGHT DOWN LIGHTngDOW",
  "N HEAVY AND RIGHT UPngVERTICAL HEAVY AND RIGHTnaDOWN LIGHT AND RIGHT UP HEAVYngUP LIGHT AND RI",
  "GHT DOWNnaHEAVY VERTICAL AND RIGHTnbLIGHT VERTICAL AND LEFnaVERTICAL LIGHT AND LEFT HEAVYnaUP ",
  "HEAVY AND LEFT DOWN LIGHTngDOWN HEAVY AND LEFT UPngVERTICAL HEAVY AND LEFTnaDOWN LIGHT AND LEF",
  "T UP HEAVYngUP LIGHT AND LEFT DOWNnaHEAVY VERTICAL AND LEFTnaLIGHT DOWN AND HORIZONTALoaEFT HE",
  "AVY AND RIGHT DOWN LIGHTnmRIGHT HEAVY AND LEFnaDOWN LIGHT AND HORIZONTAL HEAVYsaHEAVY AND HORI",
  "ZONTAL LIGHTnaRIGHT LIGHT AND LEFT DOWN HEAVYnmLEFT LIGHT AND RIGHnaHEAVY DOWN AND HORIZONTALn",
  "pLIGHT UPoaEFT HEAVY AND RIGHT UP LIGHTnkRIGHT HEAVY AND LEFnaUP LIGHT AND HORIZONTAL HEAVYqaH",
  "EAVY AND HORIZONTAL LIGHTnaRIGHT LIGHT AND LEFT UP HEAVYnkLEFT LIGHT AND RIGHnaHEAVY UP AND HO",
  "RIZONTALnpLIGHT VERTICALoaEFT HEAVY AND RIGHT VERTICAL LIGHTnqRIGHT HEAVY AND LEFnaVERTICAL LI",
  "GHT AND HORIZONTAL HEAVYnaUP HEAVY AND DOWN HORIZONTAL LIGHTnrDOWN HEAVY AND UPnrVERTICAL HEAV",
  "Y ANDngLEFT UP HEAVY AND RIGHT DOWNnmRIGHT UP HEAVY AND LEFngLEFT DOWN HEAVY AND RIGHT UPnkRIG",
  "HT DOWN HEAVY AND LEFnaDOWN LIGHT AND UP HORIZONTAL HEAVYnrUP LIGHT AND DOWNniRIGHT LIGHT AND ",
  "LEFT VERTICnqLEFT LIGHT AND RIGHnaHEAVY VERTICAL AND HORIZONTALnlLIGHT DOUBLE DASHnxHEAVYncLIG",
  "HT DOUBLE DASH VERTICnvHEAVYncDOUBLE HORIZONTucVERTICpaWN SINGLE AND RIGHT DOUBLEscDOUBLE AND ",
  "RIGHT SINGpaUBLE DOWN AND RIGHTpaWN SINGLE AND LEFT DOUBLEscDOUBLE AND LEFT SINGpaUBLE DOWN AN",
  "D LEFTnaUP SINGLE AND RIGHT DOUBLEqcDOUBLE AND RIGHT SINGnaDOUBLE UP AND RIGHTnaUP SINGLE AND ",
  "LEFT DOUBLEqcDOUBLE AND LEFT SINGnaDOUBLE UP AND LEFTnaVERTICAL SINGLE AND RIGHT DOUBLEwcDOUBL",
  "E AND RIGHT SINGnaDOUBLE VERTICAL AND RIGHTnaVERTICAL SINGLE AND LEFT DOUBLEwcDOUBLE AND LEFT ",
  "SINGnaDOUBLE VERTICAL AND LEFTpaWN SINGLE AND HORIZONTAL DOUBLEscDOUBLE AND HORIZONTAL SINGpaU",
  "BLE DOWN AND HORIZONTALnaUP SINGLE AND HORIZONTAL DOUBLEqcDOUBLE AND HORIZONTAL SINGnaDOUBLE U",
  "P AND HORIZONTALnaVERTICAL SINGLE AND HORIZONTAL DOUBLEwcDOUBLE AND HORIZONTAL SINGnaDOUBLE VE",
  "RTICAL AND HORIZONTALnaLIGHT ARC DOWN AND RIGHT)bLEFxjUP&bRIGHtbDIAGONAL UPPER RIGHT TO LOWER ",
  "LEF+bLEFT TO LOWER RIGH$aCROSStaLEFTtaUPtaRIGHTtaDOWNnaHEAVY LEFTtaUPtaRIGHTtaDOWNnaLIGHT LEFT",
  " AND HEAVY RIGHTtaUP AND HEAVY DOWNnaHEAVY LEFT AND LIGHT RIGHTtaUP AND LIGHT DOWNaaUPPER HALF",
  " BLOCKagLOWER ONE EIGHTHkgQUARTERggTHREE EIGHTHSggHALFggFIVE EIGHTHSghTHREE QUARTERghSEVEN EIG",
  "HTHagFULLagLEFT SEVEN EIGHTHSfhTHREE QUARTERfhFIVE EIGHTHfgHALFfgTHREE EIGHTHSfgONE QUARTERjgE",
  "IGHTHagRIGHT HALFaaLIGHT SHADEagMEDIUMagDARKaaUPPER ONE EIGHTH BLOCKarRIGHTaaQUADRANT LOWER LE",
  "FTpbRIGHjbUPPER LEFta AND LOWER LEFT AND LOWER RIGHT&fybUPPER RIGHT AND LOWER LEF_bRIGHpfua AN",
  "D LOWER LEFT,a AND LOWER RIGHTaaBLACK SQUAREahWHITEma WITH ROUNDED CORNERSnaCONTAINING BLACK S",
  "MALL SQUAREaaSQUARE WITH HORIZONTAL FILLmhVERTICmfORTHOGONAL CROSSHATCHmfUPPER LEFT TO LOWER R",
  "IGHTsgRIGHT TO LOWER LEFmfDIAGONAL CROSSHATCHaaBLACK SMALL SQUAREanWHITEabBLACK RECTANGLakWHIT",
  "EakBLACK VERTICALatWHITEaaBLACK PARALLELOGRAMaoWHITEaaBLACK UP-POINTING TRIANGLEavWHITEajBLACK",
  " UP-POINTING SMALLa#WHITEajBLACK RIGHT-POINTINGayWHITEajBLACK RIGHT-POINTING SMALLa&WHITEaaBLA",
  "CK RIGHT-POINTING POINTERaxWHITEaaBLACK DOWN-POINTING TRIANGLEaxWHITEajBLACK DOWN-POINTING SMA",
  "LLa%WHITEajBLACK LEFT-POINTINGaxWHITEajBLACK LEFT-POINTING SMALLa%WHITEaaBLACK LEFT-POINTING P",
  "OINTERawWHITEaaBLACK DIAMONDaiWHITEna CONTAINING BLACK SMALL DIAMONDaaFISHEYEabLOZENGabWHITE C",
  "IRCLahDOTTEDaaCIRCLE WITH VERTICAL FILLaaBULLSEYEbbLACK CIRCLaaCIRCLE WITH LEFT HALF BLACKmmRI",
  "GHmlLOWERmnUPPsgRIGHT QUADRANTmqALL BUT UPPER LEFaaLEFT HALF BLACK CIRCLEatRIGHaaINVERSE BULLE",
  "TiaWHITE CIRCLEauUPPER HALF a$LOWaaUPPER LEFT QUADRANT CIRCULAR ARCgxRIGHa&LOWgxLEFaaUPPER HAL",
  "F CIRCLEaoLOWacBLACK LOWER RIGHT TRIANGmkLEFgqUPPmkRIGHaaWHITE BULLETaaSQUARE WITH LEFT HALF B",
  "LACKmmRIGHmlUPPER LEFT DIAGONALmvLOWER RIGHaaWHITE SQUARE WITH VERTICAL BISECTING LINEgaUP-POI",
  "NTING TRIANGLE WITH DOTaaUP-POINTING TRIANGLE WITH LEFT HALF BLACK!mRIGHaaLARGE CIRCLEaaWHITE ",
  "SQUARE WITH UPPER LEFT QUADRANTsqLOWykRIGHsrUPPgkCIRCLE WITH UPPER LEFsqLOWykRIGHsrUPPaaUPPER ",
  "LEFT TRIANGLEgkRIGHakLOWER LEFabWHITE MEDIUM SQUARaoBLACKahWHITE MEDIUM SMALLauBLACKabLOWER RI",
  "GHT TRIANGLaaBLACK SUN WITH RAYSaaCLOUDaaUMBRELLAaaSNOWMANaaCOMETaaBLACK STARafWHITEaaLIGHTNIN",
  "GaaTHUNDERSTORMaaSUNaaASCENDING NODEanDEaaCONJUNCTIONaeOPPOSIaaBLACK TELEPHONEakWHITEaaBALLOT ",
  "BOXka WITH CHECKqaXaaSALTIREaaUMBRELLA WITH RAIN DROPSaaHOT BEVERAGEabWHITE SHOGI PIECamBLACKa",
  "aSHAMROCKaaREVERSED ROTATED FLORAL HEART BULLETaaBLACK LEFT POINTING INDEXgqRIGHaqWHITE LEFgpU",
  "PgpRIGHTgpDOWNaaSKULL AND CROSSBONESaaCAUTION SIGNafRADIOACTIVEafBIOHAZARDaaCADUCEUSaaANKHaaOR",
  "THODOX CROSSaaCHI RHObaROSS OF LORRAINEjaJERUSALEMaaSTAR AND CRESCENTaaFARSI SYMBOLaaADI SHAKT",
  "IaaHAMMER AND SICKLEaaPEACE SYMBOLaaYIN YANGaaTRIGRAM FOR HEAVENmaLAKEmbFIRmaTHUNDERmaWINDnaAT",
  "ERmaMOUNTAINmaEARTHaaWHEEL OF DHARMAcaITE FROWNING FACEgiSMILanBLACKaaWHITE SUN WITH RAYSaaFIR",
  "ST QUARTER MOONapLAaaMERCURYaaFEMALE SIGNaaEARTHaaMALE SIGNaaJUPITERaaSATURNaaURANUSaaNEPTUNEa",
  "aPLUTOaaARIESabTAURUaaGEMINIaaCANCERaaLEOabVIRGaaLIBRAaaSCORPIUSbdAGITTARaaCAPRICORNaaAQUARIUS",
  "abPISCEaaWHITE CHESS KINGmaQUEENmaROOKmaBISHOPmaKNIGHTmaPAWNaaBLACK CHESS KINGmaQUEENmaROOKmaB",
  "ISHOPmaKNIGHTmaPAWNgaSPADE SUITafWHITE HEARTgfDIAMONDafBLACK CLUBafWHITE SPADEafBLACK HEARTgfD",
  "IAMONDafWHITE CLUBaaHOT SPRINGSaaQUARTER NOTEafEIGHTHaaBEAMED EIGHTH NOTEShiSIXTEENaaMUSIC FLA",
  "T SIGNgfNATURALgfSHARPaaWEST SYRIAC CROSSapEAaaUNIVERSAL RECYCLING SYMBOLaaRECYCLING SYMBOL FO",
  "R TYPE-1 PLASTICS!j2!j3!j4!j5!j6!j7vbGENERIC MATERIALaaBLACK UNIVERSAL RECYCLING SYMBOLahRECYC",
  "LED PAPERavPARTIALLY-baERMANENT PAPER SIGNaaWHEELCHAIR SYMBOLaaDIE FACE-1ja2ja3ja4ja5ja6aaWHIT",
  "E CIRCLE WITH DOT RIGHTsaTWO DOTSaaBLACK CIRCLE WITH WHITE DOT RIGHTsaTWO WHITE DOTSaaMONOGRAM",
  " FOR YANGoaINaaDIGRAM FOR GREATER YANGlaLESSER YINtaANGlaGREATER YINaaWHITE FLAGafBLACKaaHAMME",
  "R AND PICKaaANCHORaaCROSSED SWORDSabSTAFF OF AESCULAPIUbbCALEaaALEMBICaaFLOWERabGEAaaSTAFF OF ",
  "HERMESaaATOM SYMBOLaaFLEUR-DE-LISaaOUTLINED WHITE STARaaTHREE LINES CONVERGING RIGHTxbLEFaaWAR",
  "NING SIGNafHIGH VOLTAGEagDOUBLED FEMALijalINTERLOCKED FEMALE ANajMALE AND FEfgWITH STROKreAND ",
  "MALE AND FEMALE agVERTICAL MALE WITH STROKayHORIZONTaaMEDIUM WHITE CIRCLEhhBLACKhhSMALL WHITEb",
  "aARRIAGE SYMBOLaiDIVORCahUNMARRIED PARTNERSHIPaaCOFFINabFUNERAL URaaNEUTERaaCERESabPALLAaaJUNO",
  "aaVESTAaaCHIRONaaBLACK MOON LILITHaaSEXTILEcfMISEaaQUINCUNXaaSESQUIQUADRATEbaOCCER BALLaeBASEa",
  "aSQUARED KEYaaWHITE DRAUGHTS MANpaKINGaaBLACK DRAUGHTS MANpaKINGaaSNOWMAN WITHOUT SNOWbaUN BEH",
  "IND CLOUDaaRAINabBLACK SNOWMAabTHUNDER CLOUD AND RAIbaURNED WHITE SHOGI PIECEhmBLACKabWHITE DI",
  "AMOND IN SQUARaaCROSSING LANESaaDISABLED CARaaOPHIUCHUSaaPICKaaCAR SLIDINGaaHELMET WITH WHITE ",
  "CROSSabCIRCLED CROSSING LANEbbHAINaaNO ENTRYaaALTERNATE ONE-WAY LEFT WAY TRAFFICavBLACK TWOazW",
  "HITEaaBLACK LEFT LANE MERGEaqWHITEaaDRIVE SLOW SIGNaaHEAVY WHITE DOWN-POINTING TRIANGLEaaLEFT ",
  "CLOSED ENTRYaaSQUARED SALTIREacFALLING DIAGONAL IN WHITE CIRCLE IN BLACK SQUAaaBLACK TRUCKaaRE",
  "STRICTED LEFT ENTRY-1wa2aaASTRONOMICAL SYMBOL FOR URANUSaaHEAVY CIRCLE WITH STROKE AND TWO DOT",
  "S ABOVEaaPENTAGRAMajRIGHT-HANDED INTERLACED a%LEFamINVERTaaBLACK CROSS ON SHIELDaaSHINTO SHRIN",
  "EaaCHURCHbaASTLEabHISTORIC SITaaGEAR WITHOUT HUBja HANDLESaaMAP SYMBOL FOR LIGHTHOUSEbaOUNTAIN",
  "aaUMBRELLA ON GROUNDaaFOUNTAINbaLAG IN HOLEbaERRYaaSAILBOATbaQUARE FOUR CORNERSbaKIERaaICE SKA",
  "TEaaPERSON WITH BALLaaTENTaaJAPANESE BANK SYMBOLahHEADSTONE GRAVEYARDaaFUEL PUMPaaCUP ON BLACK",
  " SQUAREabWHITE FLAG WITH HORIZONTAL MIDDLE BLACK STRIPaaBLACK SAFETY SCISSORSajUPPER BLADEajBL",
  "ACKajLOWER BLADEakWHITgaHEAVY CHECK MARKaaTELEPHONE LOCATION SIGNbaAPE DRIVEabAIRPLANabENVELOP",
  "aaRAISED FISThaHANDafVICTORYafWRITINGaaLOWER RIGHT PENCILagagUPPER RIGHT aaWHITE NIBaeBLACKaaC",
  "HECK MARKakHEAVY aaMULTIPLICATION XaqHEAVY acBALLOTaiHEAVY aaOUTLINED GREEK CROSSamHEAVYagOPEN",
  " CENTREarHEAVY agLATINalSHADOWED WHITE amOUTLINEDagMALTESEaaSTAR OF DAVIDaaFOUR TEARDROP-SPOKE",
  "D ASTERISKfqBALLOONa$HEAVY aqFOUR CLUBaaBLACK FOUR POINTED STARasWHITEaaSPARKLESbaTRESS OUTLIN",
  "ED WHITE STARanCIRCLafOPEN CENTRE BLACKafBLACK CENTRE WHITEafOUTLINED BLACKatHEAVY afPINWHEELa",
  "fSHADOWED WHITEaaHEAVY ASTERISKajOPEN CENTREajEIGHT SPOKEDgaPOINTED BLACK STARofPINWHEELafSIX ",
  "POINTED BLACKalEIGHT POINTED RECTILINEARa.HEAVY alTWELVE POINTEDaaSIXTEEN POINTED ASTERISKalTE",
  "ARDROP-SPOKayOPEN CENTRE azHEAVYaaSIX PETALLED BLACK AND WHITE FLORETTEajBLACKajWHITEajEIGHT P",
  "ETALLED OUTLINED BLACKaaCIRCLED OPEN CENTRE EIGHT POINTED STARaaHEAVY TEARDROP-SPOKED PINWHEEL",
  " ASTERISKaaSNOWFLAKEajTIGHT TRIFOLIATE akHEAVY CHEVRONabSPARKLahHEAVY aaBALLOON-SPOKED ASTERIS",
  "KajEIGHT TEARDROP-SPOKED PROPELLERa>HEAVY abCROSS MARaaSHADOWED WHITE CIRCLEaaNEGATIVE SQUARED",
  " CROSS MARKaaLOWER RIGHT DROP-SHADOWED WHITE SQUAREa,UPPavLOWER RIGHT a&UPPaaBLACK QUESTION MA",
  "RK ORNAMENTaxWHITEgsEXCLAMAaaBLACK DIAMOND MINUS WHITE XaaHEAVY EXCLAMATION MARK SYMBOLaaLIGHT",
  " VERTICAL BARanMEDIUManHEAVYgaSINGLE TURNED COMMA QUOTATION MARK ORNAMENTn%g&DOUBLE TURNEDn%g)",
  "LOW SINGk)DOUBajCURVED STEM PARAGRAPH SIGNajHEAVY EXCLAMATION MARKgzHEART gbBLACK HEARabROTATE",
  "D HEAVY BLACK HEART BULLEabFLORAL HEARabROTATED FLORAL HEART BULLEabMEDIUM LEFT PARENTHESIS OR",
  "NAMENhwRIGHhwFLATTENED LEFrwRIGHhjLEFT-POINTING ANGLE BRACKETh*RIGHajHEAVY LEFT-POINTING ANGLE",
  " QUOTATION MARKg>RIGHgjLEFT-POINTING ANGLE BRACKETg*RIGHarLIGHT LEFT TORTOISE SHELLg*RIGHarMED",
  "IUM LEFT CURLYhyRIGHaaDINGBAT NEGATIVE CIRCLED DIGIT ONE(aTWO)aHREE(aFOUR)aIVE(aSIX)aEVEN(aEIG",
  "HT(aNINEzaNUMBER TENiaCIRCLED SANS-SERIF DIGIT ONE*aTWO+aHREE*aFOUR+aIVE*aSIX+aEVEN*aEIGHT*aNI",
  "NE#aNUMBER TENiaNEGATIVE CIRCLED SANS-SERIF DIGIT ONE@aTWO[aHREE@aFOUR[aIVE@aSIX[aEVEN@aEIGHT@",
  "aNINE.aNUMBER TENaaHEAVY WIDE-HEADED RIGHTWARDS ARROWgaPLUS SIGNghMINgfDIVISIONgaSOUTH EAST AR",
  "ROWggRIGHTWARDSggNORTH EASTagDRAFTING POINT RIGHTWARDSarHEAVY ROUND-TIPPEDatTRIANGLE-HEADa)HEA",
  "VY a*DASHEDa<HEAVY arBLACKaaTHREE-D TOP-LIGHTED RIGHTWARDS ARROWHEADi%BOTTOMavBLACKaaHEAVY BLA",
  "CK CURVED DOWNWARDS AND RIGHTWARDS ARROWt!UParSQUAT BLACKaxHEAVY CONCAVE-POINTEDarRIGHT-SHADED",
  " WHITEa(LEFazBACK-TILTED SHADOWa<FRONTa(HEAVY LOWER RIGHT-g>UPPa>NOTCHED LOWaaCURLY LOOPaaNOTC",
  "HED UPPER RIGHT-SHADOWED WHITE RIGHTWARDS ARROWaxCIRCLED HEAVYarWHITE-FEATHEREDagBLACK-FEATHER",
  "ED SOUTH EASTqgRIGHTWARDSqgNORTH EASTanHEAVY BLACK-FEATHERED SOUwgRIGHTWARDSwgNORTH EASTagTEAR",
  "DROP-BARBED RIGHTWARDSatHEAVY TEARDROP-SHANKatWEDGE-TAILa%HEAVY atOPEN-OUTLINaaDOUBLE CURLY LO",
  "OPaaTHREE DIMENSIONAL ANGLEafWHITE TRIANGLE CONTAINING SMALL WHITE TRIaaPERPENDICULARaaOPEN SU",
  "BSEThdPERaaLEFT S-SHAPED BAG DELIMITERayRIGHaaOR WITH DOT INSIDEaaREVERSE SOLIDUS PRECEDING SU",
  "BSETaaSUPERSET PRECEDING SOLIDUSaaVERTICAL BAR WITH HORIZONTAL STROKEaaMATHEMATICAL RISING DIA",
  "GONALaaLONG DIVISIONaaMATHEMATICAL FALLING DIAGONALaaSQUARED LOGICAL ANDqaORaaWHITE DIAMOND WI",
  "TH CENTRED DOTaeAND WITHaaELEMENT OF OPENING UPWARDSaaLOWER RIGHT CORNER WITH DOTarUPPER LEFaa",
  "LEFT OUTER JOINamRIGHalFULLaaLARGE UP TACKgfDOWNbaEFT AND RIGHT DOUBLE TURNSTILEpaTACKfaMULTIM",
  "APbaONG RIGHT TACKfgLEFaaUP TACK WITH CIRCLE ABOVEabLOZENGE DIVIDED BY HORIZONTAL RULaaWHITE C",
  "ONCAVE-SIDED DIAMOND#a WITH LEFTWARDS TICK*lRIGHglSQUARE WITH LEFslRIGHaaMATHEMATICAL LEFT WHI",
  "TE SQUARE BRACKETnwRIGHnjLEFT ANGLnpRIGHnoLEFT DOUBLEnwRIGHniLEFT WHITE TORTOISE SHELLn&RIGHna",
  "LEFT FLATTENED PARENTHESISnxRIGHaaUPWARDS QUADRUPLE ARROWavDOWNaiANTICLOCKWISE GAPPED CIRCa%aa",
  "RIGHT ARROW WITH CIRCLED PLUSaaLONG LEFTWARDS ARROWfmRIGHfgLEFT RIGHTjgWARDS DOUBLEftRIGHfnLEF",
  "T RIGHTjaWARDS ARROW FROM BARfvRIGHfpLEFTWARDS DOUBLEf$RIGHqaSQUIGGLE ARROWaaBRAILLE PATTERN B",
  "LANKqaDOTS-1va2vb1va3vb1vb2vc1va4vb1vb2vc1vb3vc1vc2vd1va5vb1vb2vc1vb3vc1vc2vd1vb4vc1vc2vd1vc3v",
  "d1vd2ve1va6vb1vb2vc1vb3vc1vc2vd1vb4vc1vc2vd1vc3vd1vd2ve1vb5vc1vc2vd1vc3vd1vd2ve1vc4vd1vd2ve1vd",
  "3ve1ve2vf1va7vb1vb2vc1vb3vc1vc2vd1vb4vc1vc2vd1vc3vd1vd2ve1vb5vc1vc2vd1vc3vd1vd2ve1vc4vd1vd2ve1",
  "vd3ve1ve2vf1vb6vc1vc2vd1vc3vd1vd2ve1vc4vd1vd2ve1vd3ve1ve2vf1vc5vd1vd2ve1vd3ve1ve2vf1vd4ve1ve2v",
  "f1ve3vf1vf2vg1va8vb1vb2vc1vb3vc1vc2vd1vb4vc1vc2vd1vc3vd1vd2ve1vb5vc1vc2vd1vc3vd1vd2ve1vc4vd1vd",
  "2ve1vd3ve1ve2vf1vb6vc1vc2vd1vc3vd1vd2ve1vc4vd1vd2ve1vd3ve1ve2vf1vc5vd1vd2ve1vd3ve1ve2vf1vd4ve1",
  "ve2vf1ve3vf1vf2vg1vb7vc1vc2vd1vc3vd1vd2ve1vc4vd1vd2ve1vd3ve1ve2vf1vc5vd1vd2ve1vd3ve1ve2vf1vd4v",
  "e1ve2vf1ve3vf1vf2vg1vc6vd1vd2ve1vd3ve1ve2vf1vd4ve1ve2vf1ve3vf1vf2vg1vd5ve1ve2vf1ve3vf1vf2vg1ve",
  "4vf1vf2vg1vf3vg1vg2vh1aaRIGHTWARDS TWO-HEADED ARROW WITH VERTICAL STROKE*pDOUBLE aqLEFTWARDS D",
  "OUBLE ARROW WITHa>RIGHa+LEFT RIGHTaaRIGHTWARDS TWO-HEADED ARROW FROM BARapLEFTWARDS DOUBLEa$RI",
  "GHaaDOWNWARDS ARROW WITH HORIZONTAL STROKEa+UPiaTRIPLE ARROWasDOWNagLEFTWARDS DOUBLE DASHayRIG",
  "HanLEFTWARDS TRIPayRIGHmqWO-HEADED TlaARROW WITH DOTTED STEMaaUPWARDS ARROW TO BARasDOWNaaRIGH",
  "TWARDS ARROW WITH TAIL WITH VERTICAL STROKE)pDOUBLE laTWO-HEADED ARROW WITH TAIL:a WITH VERTIC",
  "AL STROKE[pDOUBLE aaLEFTWARDS ARROW-TAILarRIGHalLEFTWARDS DOUBLEayRIGHaaLEFTWARDS ARROW TO BLA",
  "CK DIAMONDa%RIGHarLEFTWARDS ARROW FROM BARa;RIGHaaNORTH WEST AND SOUTH EAST ARROWgiEAST AND SO",
  "UTH WEgaWEST ARROW WITH HOOKgsEAaxSOUgsWEaaNORTH WEST ARROW AND NORTH EAST ARROWgnEAST ARROW A",
  "ND SOUaiSOUTH EAST ARROW AND SOUTH WEgnWEST ARROW AND NORaaRISING DIAGONAL CROSSING FALLING DI",
  "AGONALamFALLING DIAGONAL CROSSING RISaaSOUTH EAST ARROW CROSSING NORTH EAST ARROWanNORTH EAST ",
  "ARROW CROSSING SOUanFALLING DIAGONAL CROSSING NORanRISING DIAGONAL CROSSING SOUaiNORTH EAST AR",
  "ROW CROSSING NORTH WEgiWEST ARROW CROSSING NORTH EAaaWAVE ARROW POINTING DIRECTLY RIGHTaaARROW",
  " POINTING RIGHTWARDS THEN CURVING UPWARDS<fDOWNpfDOWNWARDS THEN CURVING LEFT;gRIGHaaRIGHT-SIDE",
  " ARC CLOCKWISE ARROWapLEFT-SIDE ARC ANTIayTOPayBOTTOMaaTOP ARC CLOCKWISE ARROW WITH MINUSicANT",
  "ICLOCKWISE ARROW WITH PLaaLOWER RIGHT SEMICIRCULAR CLOCKWISE ARROWgpLEFT SEMICIRCULAR ANTIahAN",
  "TICLOCKWISE CLOSED CIRCLa%agRIGHTWARDS ARROW ABOVE SHORT LEFTWARDSamLEFTWARDS ARROW ABOVE SHOR",
  "T RIGHamSHORT RIGHTWARDS ARROW ABOVE LEFacRIGHTWARDS ARROW WITH PLUS BELa$LEFaaRIGHTWARDS ARRO",
  "W THROUGH XaaLEFT RIGHT ARROW THROUGH SMALL CIRCLEanUPWARDS TWO-HEADED ARROW FROMaaLEFT BARB U",
  "P RIGHT BARB DOWN HARPOONkiDOWN RIGHT BARB UPaiUP BARB RIGHT DOWN BARB LEFTijLEFT DOWN BARB RI",
  "GHaiLEFT BARB UP RIGHT BARB UPaiUP BARB RIGHT DOWN BARB RIGHTaiLEFT BARB DOWN RIGHT BARB DOWNa",
  "iUP BARB LEFT DOWN BARB LEFTaaLEFTWARDS HARPOON WITH BARB UP TO BARa+RIGHahUPWARDS HARPOON WIT",
  "H BARB RIGHTa.DOWNahLEFTWARDS HARPOON WITH BARB DOWNa.RIGHahUPWARDS HARPOON WITH BARB LEFTa,DO",
  "WNaeLEFTWARDS HARPOON WITH BARB UP FROMa.RIGHajUPWARDS HARPOON WITH BARB RIGHTa;DOWNajLEFTWARD",
  "S HARPOON WITH BARB DOWNa;RIGHajUPWARDS HARPOON WITH BARB LEFTa:DOWNaaLEFTWARDS HARPOON WITH B",
  "ARB UP ABOVE LEFTWARDS HARPOON WITH BARB DOWNaaUPWARDS HARPOON WITH BARB LEFT BESIDE UPWARDS H",
  "ARPOON WITH BARB RIGHTaaRIGHTWARDS HARPOON WITH BARB UP ABOVE RIGHTWARDS HARPOON WITH BARB DOW",
  "NaaDOWNWARDS HARPOON WITH BARB LEFT BESIDE DOWNWARDS HARPOON WITH BARB RIGHTaaLEFTWARDS HARPOO",
  "N WITH BARB UP ABOVE RIGHTWARDS HARPOON WITH BARB UP$aDOWN ABOVE RIGHTWARDS HARPOON WITH BARB ",
  "DOWNaaRIGHTWARDS HARPOON WITH BARB UP ABOVE LEFTWARDS HARPOON WITH BARB UP%aDOWN ABOVE LEFTWAR",
  "DS HARPOON WITH BARB DOWNaaLEFTWARDS HARPOON WITH BARB UP ABOVE LONG DASH$kDOWN BELOWakRIGHTWA",
  "RDS HARPOON WITH BARB UP ABOVE%kDOWN BELOWaaUPWARDS HARPOON WITH BARB LEFT BESIDE DOWNWARDS HA",
  "RPOON WITH BARB RIGHTa%DOWNWARDS HARPOON WITH BARB LEFT BESIDE UPaaRIGHT DOUBLE ARROW WITH ROU",
  "NDED HEADaaEQUALS SIGN ABOVE RIGHTWARDS ARROWaxTILDE OPERATORaaLEFTWARDS ARROW ABOVE TILDE OPE",
  "RATORa*RIGHxaALMOST EQUAL TOaaLESS-THAN ABOVE LEFTWARDS ARROWcaFTWARDS ARROW THROUGH LESS-THAN",
  "aaGREATER-THAN ABOVE RIGHTWARDS ARROWaxSUBSETaaLEFTWARDS ARROW THROUGH SUBSETaaSUPERSET ABOVE ",
  "LEFTWARDS ARROWaaLEFT FISH TAILalRIGHakUPakDOWNaaTRIPLE VERTICAL BAR DELIMITERaaZ NOTATION SPO",
  "TlaTYPE COLONaaLEFT WHITE CURLY BRACKETavRIGHaaLEFT WHITE PARENTHESISatRIGHaaZ NOTATION LEFT I",
  "MAGE BRACKETlpRIGHliLEFT BINDINGlrRIGHaaLEFT SQUARE BRACKET WITH UNDERBARa&RIGHabLEFT SQUARE B",
  "RACKET WITH TICK IN TOP CORNEahRIGHT SQUARE BRACKET WITH TICK IN BOTTOMa[LEFahRIGHT SQUARE BRA",
  "CKET WITH TICK IN TOPaaLEFT ANGLE BRACKET WITH DOTayRIGHabLEFT ARC LESS-THAN BRACKEanRIGHT ARC",
  " GREATERa!DOUBLE LEFhnRIGHT ARC LESSaiLEFT BLACK TORTOISE SHELLa&RIGHaaDOTTED FENCEabVERTICAL ",
  "ZIGZAG LINaaMEASURED ANGLE OPENING LEFTaaRIGHT ANGLE VARIANT WITH SQUAREaaMEASURED RIGHT ANGLE",
  " WITH DOTaaANGLE WITH S INSIDEbbCUTE ANGLaaSPHERICAL ANGLE OPENING LEFTyaUPaaTURNED ANGLEaiREV",
  "ERSaaANGLE WITH UNDERBARatREVERSED aaOBLIQUE ANGLE OPENING UPwaDOWNaaMEASURED ANGLE WITH OPEN ",
  "ARM ENDING IN ARROW POINTING UP AND RIGHT|bINTING UP AND LEF|bINTING DOWN AND RIGH|bINTING DOW",
  "N AND LEF|aINTING RIGHT AND UP|iINTING LEF|aINTING RIGHT AND DOWN|kINTING LEFaaREVERSED EMPTY ",
  "SETaaEMPTY SET WITH OVERBARpaSMALL CIRCLE ABOVEpgRIGHT ARROWpnLEFaaCIRCLE WITH HORIZONTAL BARg",
  "gD VERTICiaPARALLELiaREVERSE SOLIDUSiaPERPENDICULARgc DIVIDED BY HORIZONTAL BAR AND TOP HALF D",
  "IVIDED BY VERTICAL BhaWITH SUPERIMPOSED XgaD ANTICLOCKWISE-ROTATED DIVISION SIGNaaUP ARROW THR",
  "OUGH CIRCLEaaCIRCLED WHITE BULLETigiaLESS-THANifGREATERga WITH SMALL CIRCLE TO THE RIGHTmnTWO ",
  "HORIZONTAL STROKESaaSQUARED RISING DIAGONAL SLASHisFALLiaASTERISKiaSMALL CIRCLEjbQUARaaTWO JOI",
  "NED SQUARESbaRIANGLE WITH DOT ABOVEoaUNDERBARaaS IN TRIANGLEaaTRIANGLE WITH SERIFS AT BOTTOMaa",
  "RIGHT TRIANGLE ABOVE LEFT TRIANGLEaaLEFT TRIANGLE BESIDE VERTICAL BARaaVERTICAL BAR BESIDE RIG",
  "HT TRIANGLEaaBOWTIE WITH LEFT HALF BLACKmmRIGHbaLACK BOWTIEaaTIMES WITH LEFT HALF BLACKlmRIGHa",
  "aWHITE HOURGLASSakBLACKaaLEFT WIGGLY FENCEaoRIGHanLEFT DOUBLEavRIGHaaINCOMPLETE INFINITYajTIE ",
  "OVERaaINFINITY NEGATED WITH VERTICAL BARaaDOUBLE-ENDED MULTIMAPaaSQUARE WITH CONTOURED OUTLINE",
  "aaINCREASES ASaaSHUFFLE PRODUCTaaEQUALS SIGN AND SLANTED PARALLEL)a WITH TILDE ABOVEaaIDENTICA",
  "L TO AND SLANTED PARALLELaaGLEICH STARKaaTHERMODYNAMICaaDOWN-POINTING TRIANGLE WITH LEFT HALF ",
  "BLACK$mRIGHaaBLACK DIAMOND WITH DOWN ARROWgaLOZENGEaaWHITE CIRCLE WITH DOWN ARROWaxBLACKaaERRO",
  "R-BARRED WHITE SQUAREnhBLACKnaWHITE DIAMONDniBLACKnaWHITE CIRCLEnhBLACKaaRULE-DELAYEDbaEVERSE ",
  "SOLIDUS OPERATORabSOLIDUS WITH OVERBAaaREVERSE SOLIDUS WITH HORIZONTAL STROKEaaBIG SOLIDUSehRE",
  "VERSE acDOUBLE PLahTRIPaaLEFT-POINTING CURVED ANGLE BRACKETa(RIGHaaTINYadMaaN-ARY CIRCLED DOT ",
  "OPERATORojPLUSokTIMEgaUNION OPERATOR WITH DOT!aPLUSgaSQUARE INTERSECTION OPERATORnmUNajTWO LOG",
  "ICAL ANDmjORajN-ARY TIMESaaMODULO TWO SUMaaSUMMATION WITH INTEGRALaaQUADRUPLE INTEGRAL OPERATO",
  "RaaFINITE PART INTEGRALaaINTEGRAL WITH DOUBLE STROKEjaAVERAGE WITH SLASHaaCIRCULATION FUNCTION",
  "aeANTICLOCKWISE INTEGRAaaLINE INTEGRATION WITH RECTANGULAR PATH AROUND POLEwvSEMICIRCrfNOT INC",
  "LUDING THEaaINTEGRAL AROUND A POINT OPERATORajQUATERNION INTEGRALaaINTEGRAL WITH LEFTWARDS ARR",
  "OW WITH HOOKoaTIMES SIGNobINTERSECTIOodUNoaOVERBARofUNDaaJOINaaLARGE LEFT TRIANGLE OPERATORaaZ",
  " NOTATION SCHEMA COMPOSITIONsaPIPINGtaROJECTIONaaPLUS SIGN WITH SMALL CIRCLE ABOVEpgCIRCUMFLEX",
  " ACCENTpgTILDEpaDOT BELOWpgTILDEpaSUBSCRIPT TWOpaBLACK TRIANGLEabMINUS SIGN WITH COMMA ABOVqaD",
  "OT BELOWqaFALLING DOTSqiRISaaPLUS SIGN IN LEFT HALF CIRCLEnnRIGHaaVECTOR OR CROSS PRODUCTaaMUL",
  "TIPLICATION SIGN WITH DOT ABOVEzaUNDERBARaaSEMIDIRECT PRODUCT WITH BOTTOM CLOSEDbaMASH PRODUCT",
  "aaMULTIPLICATION SIGN IN LEFT HALF CIRCLExnRIGHaaCIRCLED MULTIPLICATION SIGN WITH CIRCUMFLEX A",
  "CCENTaaMULTIPLICATION SIGN IN DOUBLE CIRCLEaaCIRCLED DIVISION SIGNaaPLUS SIGN IN TRIANGLEatMIN",
  "brULTIPLICATIONaaINTERIOR PRODUCTaqRIGHTHAND aaZ NOTATION RELATIONAL COMPOSITIONaaAMALGAMATION",
  " OR COPRODUCTabINTERSECTION WITH DOaaUNION WITH MINUS SIGNlaOVERBARaqINTERSECTsaLOGICAL ANDaaU",
  "NION WITH LOGICAL ORgaABOVE INTERSECTIONadINTERSECTION ABOVE UNadUNION ABOVE BAR ABOVE INTERSE",
  "CTadINTERSECTION ABOVE BAR ABOVE UNagUNION BESIDE AND JOINED WITHadINTERSECTION BESIDE AND JOI",
  "NED WITH INTERSECTaaCLOSED UNION WITH SERIFShpINTERSECTaaDOUBLE SQUARE INTERSECTIONodUNaaCLOSE",
  "D UNION WITH SERIFS AND SMASH PRODUCTaaLOGICAL AND WITH DOT ABOVEipORaaDOUBLE LOGICAL ANDpaORa",
  "aTWO INTERSECTING LOGICAL ANDzaORadSLOPING LARGEoaANDaeLOGICAL OR OVERLAPPING LOGICALiaAND WIT",
  "H MIDDLE STEMirORiaAND WITH HORIZONTAL DASHivORiaAND WITH DOUBLE OVERBARrfUNDriDOUBLE ajSMALL ",
  "VEE WITHafLOGICAL OR WITH DOUBLE OVxfUNDaaZ NOTATION DOMAIN ANTIRESTRICTIONlqRANGEaaEQUALS SIG",
  "N WITH DOT BELOWaaIDENTICAL WITH DOT ABOVEabTRIPLE HORIZONTAL BAR WITH DOUBLE VERTICAL STROK#s",
  "TRIPbbILDE OPERATOR WITH DOT ABOVuaRISING DOTSaaSIMILAR MINUS SIMILARaaCONGRUENT WITH DOT ABOV",
  "EaaEQUALS WITH ASTERISKaaALMOST EQUAL TO WITH CIRCUMFLEX ACCENTbaPPROXIMATELY EQUAL OR EQUAL T",
  "OaaEQUALS SIGN ABOVE PLUS SIGNagPLUS SIGN ABOVE EQUALaaEQUALS SIGN ABOVE TILDE OPERATORaaDOUBL",
  "E COLON EQUALaaTWO CONSECUTIVE EQUALS SIGNSbzHREEaaEQUALS SIGN WITH TWO DOTS ABOVE AND TWO DOT",
  "S BELOWdaIVALENT WITH FOUR DOTS ABOVEabLESS-THAN WITH CIRCLE INSIDayGREATERabLESS-THAN WITH QU",
  "ESTION MARK ABOVa&GREATERaaLESS-THAN OR SLANTED EQUAL TOazGREATERaaLESS-THAN OR SLANTED EQUAL ",
  "TO WITH DOT INSIDEa?GREATERabLESS-THAN OR SLANTED EQUAL TO WITH DOT ABOVa>GREATERaaLESS-THAN O",
  "R SLANTED EQUAL TO WITH DOT ABOVE RIGHTabGREATER-THAN OR SLANTED EQUAL TO WITH DOT ABOVE LEFaa",
  "LESS-THAN OR APPROXIMATEauGREATERaaLESS-THAN AND SINGLE-LINE NOT EQUAL TOa+GREATERaaLESS-THAN ",
  "AND NOT APPROXIMATEazGREATERaaLESS-THAN ABOVE DOUBLE-LINE EQUAL ABOVE GREATER-THANafGREATER-TH",
  "AN ABOVE DOUBLE-LINE EQUAL ABOVE LESSaaLESS-THAN ABOVE SIMILAR OR EQUALa$GREATERaaLESS-THAN AB",
  "OVE SIMILAR ABOVE GREATER-THANafGREATER-THAN ABOVE SIMILAR ABOVE LESSaaLESS-THAN ABOVE GREATER",
  "-THAN ABOVE DOUBLE-LINE EQUALa%GREATER-THAN ABOVE LESSagLESS-THAN ABOVE SLANTED EQUAL ABOVE GR",
  "EATER-THAN ABOVE SLANTEDazGREATER-THAN ABOVE SLANTED EQUAL ABOVE LESSaaSLANTED EQUAL TO OR LES",
  "S-THANufGREATERuaLESS-THAN WITH DOT INSIDEuvGREATERaaDOUBLE-LINE EQUAL TO OR LESS-THANyfGREATE",
  "RmfSLANTED EQUAL TO OR LESS)fGREATERafSIMILAR OR LESSlfGREATERibABOVE LESS-THAN ABOVE EQUALS S",
  "IGoxGREATERabDOUBLE NESTED LESS-THAofGREATERoaLESS-THAN WITH UNDERBARaaGREATER-THAN OVERLAPPIN",
  "G LESS-THANnkBESIDEaaLESS-THAN CLOSED BY CURVEavGREATERaaLESS-THAN CLOSED BY CURVE ABOVE SLANT",
  "ED EQUALa?GREATERaaSMALLER THANahLARGaaSMALLER THAN OR EQUAL TOatLARGaaEQUALS SIGN WITH BUMPY ",
  "ABOVEaaPRECEDES ABOVE SINGLE-LINE EQUALS SIGNa(SUCCEEDaaPRECEDES ABOVE SINGLE-LINE NOT EQUAL T",
  "Oa)SUCCEEDaaPRECEDES ABOVE EQUALS SIGNatSUCCEEDaaPRECEDES ABOVE NOT EQUAL TOauSUCCEEDakPRECEDE",
  "S ABOVE ALMOSaxSUCCEEDaqPRECEDES ABOVE NOTa#SUCCEEDaaDOUBLE PRECEDEShbSUCCEEDaaSUBSET WITH DOT",
  "cmPERcaBSET WITH PLUS SIGN BELOWcyPERclBSET WITH MULTIPLICATIONc+PERcaBSET OF OR EQUAL TO WITH",
  " DOT ABOVEc*PERcaBSET OF ABOVE EQUALS SIGNcyPERcaBSET OF ABOVE TILDE OPERATORc#PERcaBSET OF AB",
  "OVE ALMOST EQUAL TOc$PERckBSET OF ABOVE NOczPERbaQUARE LEFT OPEN BOX OPERATORhtRIGHaaCLOSED SU",
  "BSETjdPERjaBSET OR EQUAL TOjpPERaaSUBSET ABOVE SUPERSETcdPERSET ABOVE SUBcqBcdPERSET ABOVE SUP",
  "ERjdBESIDE SUBqgAND JOINED BY DASH WITH aaELEMENT OF OPENING DOWNWARDSaaPITCHFORK WITH TEE TOP",
  "aaTRANSVERSAL INTERSECTIONaaFORKINGahNONaaSHORT LEFT TACKgfDOWNgfUPaaPERPENDICULAR WITH SaaVER",
  "TICAL BAR TRIPLE RIGHT TURNSTILEalDOUBLE VERTICAL BAR LEFapVERTICAL BAR DOUBLEa+DOUBLE aaLONG ",
  "DASH FROM LEFT MEMBER OF DOUBLE VERTICALaaSHORT DOWN TACK WITH OVERBARgfUP TACK WITH UNDoaABOV",
  "E SHORT DOWN TACKakDOUBLEhfUPhaSTROKE NOT SIGNawREVERSED aaDOES NOT DIVIDE WITH REVERSED NEGAT",
  "ION SLASHaaVERTICAL LINE WITH CIRCLE ABOVE!aBELOWasDOWN TACKaaPARALLEL WITH HORIZONTAL STROKEo",
  "aTILDE OPERATORaaTRIPLE VERTICAL BAR BINARY RELATIONuaWITH HORIZONTAL STROKEhaCOLON OPERATORha",
  "NESTED LESS-THANofGREATERaaDOUBLE-LINE SLANTED LESS-THAN OR EQUAL TOurGREATERaaTRIPLE SOLIDUS ",
  "BINARY RELATIONaaLARGE TRIPLE VERTICAL BAR OPERATORajDOUBLE SOLIDUSabWHITE VERTICAL BAasN-ARY ",
  "baORTH EAST WHITE ARROWgoWEaoSOUTH EAgoWEanLEFT RIGHegWARDS BLACKarUParDOWNamNORTH EASTgoWEaoS",
  "OUTH EAgoWEanLEFT RIGHamUP DOWNaaRIGHTWARDS ARROW WITH TIP DOWNWARDS!fUPafLEFTWARDS ARROW WITH",
  " TIP DOWNzfUPaaSQUARE WITH TOP HALF BLACKmlBOTTOMmlUPPER RIGHT DIAGONALmvLOWER LEFalDIAMOND WI",
  "TH LEFTnmRIGHnlTOPnlBOTTOMbaOTTED SQUAREahBLACK LARGEanWHITEahBLACK VERY SMALLasWHITEaaBLACK P",
  "ENTAGONajWHITEgeHEXaiBLACKanHORIZONTAL aaBLACK LARGE CIRCLEgaMEDIUM DIAMONDapWHITEaaBLACK MEDI",
  "UM LOZENGEapWHITEaaBLACK SMALL DIAMONDmaLOZENGEaoWHITEabBLACK HORIZONTAL ELLIPSatWHITEakBLACK ",
  "VERTICarWHITEabLEFT ARROW WITH SMALL CIRCLaaTHREE LEFTWARDS ARROWSabLEFT ARROW WITH CIRCLED PL",
  "UbaONG LEFTWARDS SQUIGGLE ARROWbaEFTWARDS TWO-HEADED ARROW WITH VERTICAL STROKE)pDOUBLE #aFROM",
  " BARvaTRIPLE DASH ARROWkaARROW WITH DOTTED STEMvaTAIL WITH VERTICAL STROKE(pDOUBLE kaTWO-HEADE",
  "D ARROW WITH TAIL.a WITH VERTICAL STROKE@pDOUBLE kaARROW THROUGH XaaWAVE ARROW POINTING DIRECT",
  "LY LEFTaaEQUALS SIGN ABOVE LEFTWARDS ARROWawREVERSE TILDE OPERATORaaLEFTWARDS ARROW ABOVE REVE",
  "RSE ALMOST EQUAL TOaaRIGHTWARDS ARROW THROUGH GREATER-THANzaSUPERSETaaLEFTWARDS QUADRUPLE ARRO",
  "WawRIGHbgEVERSE TILDE OPERATOR ABOVE RIGHTWARDSbaIGHTWARDS ARROW ABOVE REVERSE ALMOST EQUAL TO",
  "aaTILDE OPERATOR ABOVE LEFTWARDS ARROWaaLEFTWARDS ARROW ABOVE ALMOST EQUAL TOwaREVERSE TILDE O",
  "PERATORa?RIGHaaDOWNWARDS TRIANGLE-HEADED ZIGZAG ARROWagSHORT SLANTED NORTHgiBACKSLANTED SOUaaW",
  "HITE MEDIUM STARafBLACK SMALLalWHITEaaBLACK RIGHT-POINTING PENTAGONayWHITEaaHEAVY LARGE CIRCLE",
  "gbOVAL WITH OVAL INSIDghCIRCLE WITH CIRCLEmamaD SALTIREaaSLANTED NORTH ARROW WITH HOOKED HEADa",
  "aBACKSLANTED SOUTH ARROW WITH HOOKED TAILafSLANTED NORTH ARROW WITH HORIZONTALa%BACKSLANTED SO",
  "UbaENT ARROW POINTING DOWNWARDS THEN NORTH EASTa^SHORT aaLEFTWARDS TRIANGLE-HEADED ARROWa#UPa#",
  "RIGHTa#DOWNawLEFT RIGHTawUP DOWNawNORTH WESTgyEAa%SOUgyWEaiLEFTWARDS TRIANGLE-HEADED DASHa+UPa",
  "+RIGHTa+DOWNagCLOCKWISE TRIANGLE-HEADED OPEN CIRCLEa[ANTIaaLEFTWARDS TRIANGLE-HEADED ARROW TO ",
  "BARa+UPa+RIGHTa+DOWN~2B76a%NORTH WESTg(EAa.SOUg(WEaaLEFTWARDS TRIANGLE-HEADED ARROW WITH DOUBL",
  "E HORIZONTAL STROKEa|UPWARDS TRIAa|RIGHTWARDS TRIAa|DOWNWARDS TRIAaaHORIZONTAL TAB KEYakVERTIC",
  "aaLEFTWARDS TRIANGLE-HEADED ARROW OVER RIGHTWARDS TRIANGLE-HEADED ARROWa#UPWARDS TRIANGLE-HEAD",
  "ED ARROW LEFTWARDS OF DOWNa#RIGHTWARDS TRIANGLE-HEADED ARROW OVER LEFTa#DOWNWARDS TRIANGLE-HEA",
  "DED ARROW LEFTWARDS OF UPaaLEFTWARDS TRIANGLE-HEADED PAIRED ARROWSa,UPa,RIGHTa,DOWNaaLEFTWARDS",
  " BLACK CIRCLED WHITE ARROWa(UPa(RIGHTa(DOWNagANTICLOCKWISE TRIANGLE-HEADED RIGHT U-SHAPED&pBOT",
  "TOM&pLEFT&pTOPaaRETURN LEFThbRIGHabNEWLINE LEFibRIGHaaFOUR CORNER ARROWS CIRCLING ANTICLOCKWIS",
  "EaaRIGHTWARDS BLACK ARROW~2B97aaSYMBOL FOR TYPE A ELECTRONICSaaTHREE-D TOP-LIGHTED LEFTWARDS E",
  "QUILATERAL ARROWHEADi#RIGHT-LIGHTED UPi#TOP-LIGHTED RIGHTi#LEFT-LIGHTED DOWNa#BLACK LEFTg#UPg#",
  "RIGHTg#DOWNaaDOWNWARDS TRIANGLE-HEADED ARROW WITH LONG TIP LEFTWARDS_gRIGHagUPWARDS TRIANGLE-H",
  "EADED ARROW WITH LONG TIP LEF]gRIGHafLEFTWARDS TRIANGLE-HEADED ARROW WITH LONG TIP UPa|RIGHTWA",
  "afLEFTWARDS TRIANGLE-HEADED ARROW WITH LONG TIP DOWNa|RIGHTWARDaaBLACK CURVED DOWNWARDS AND LE",
  "FTWARDS ARROW#mRIGHnmUPWARDS AND LEFzmRIGHnlLEFTWARDS AND UPnyRIGHnlLEFTWARDS AND DOWNn!RIGHaa",
  "RIBBON ARROW DOWN LEFTsbRIGHnbUP LEFqbRIGHnaLEFT UPneRIGHnaLEFT DOWNngRIGHaaUPWARDS WHITE ARRO",
  "W FROM BAR WITH HORIZONTAL BARca ARROWHEAD IN A RECTANGLE BOXaaOVERLAPPING WHITE SQUARESshAND ",
  "BLACK mnaaBALLOT BOX WITH LIGHT XacCIRCLEDibBOLD aaBLACK SQUARE CENTREDgiDIAMONDaaTURNED BLACK",
  " PENTAGONafHORIZONTAL BLACK OCangaMEDIUM UP-POINTING TRIANGLE CENTREDn!DOWNn!LEFTn#RIGHaaNEPTU",
  "NE FORM TWOaaTOP HALF BLACK CIRCLEasBOTTOMaaLIGHT FOUR POINTED BLACK CUSPa%ROTATED afWHITE FOU",
  "R POINTEDaxROTATED aaSQUARE POSITION INDICATORaaUNCERTAINTY SIGNaaGROUP MARKaaPLUTO FORM TWOma",
  "HREElaFOURmaIVEaaTRANSPLUTOaaPROSERPINAabASTRAEacHYGIaaPHOLUSacNESSaaWHITE MOON SELENAaaBLACK ",
  "DIAMOND ON CROSSaaTRUE LIGHT MOON ARTAaaCUPIDOaaHADESabZEUabKRONOaaAPOLLONbaDMETOSabVULCANUaaP",
  "OSEIDONaaLEFT HALF BLACK STARarRIGHaaSTAR WITH LEFT HALF BLACKkmRIGHaaLEFTWARDS TWO-HEADED ARR",
  "OW WITH TRIANGLE ARROWHEADSa|UPa|RIGHTa|DOWNaaERIS FORM ONEkaTWOaaSEDNAaaRUSSIAN ASTROLOGICAL ",
  "SYMBOL VIGINTILE$dNOV$dQUINT$dBINOV$aSENTAGON$aTREDECILEaaEQUALS SIGN WITH INFINITY BELOWaaUNI",
  "TED SYMBOLakSEPARAajDOUBLajPASSaaREVERSED RIGHT ANGLEaaHELLSCHREIBER PAUSE SYMBOLaaGLAGOLITIC ",
  "CAPITAL LETTER AZU!aBUKY!aVEDE!aGLAGOLI!aDOBRO!aYESTU!aZHIVETE!aDZELO!aZEMLJA!aIZHE#dNITIAL I#",
  "a!bDJERV!aKAKO!aLJUDIJE!bMYSLIT!aNASHI!aONU!aPOKOJI!bRITS!aSLOVO!bTVRID!aUKU!bFRIT!bHER!bOT!aP",
  "E!aSHTA!aTSI!bCHRIV!aSHA!aYERU%aI#bAT!aSPIDERY HA!aYU!aSMALL YUS,a WITH TAIL!aYO!aIOTATED SMAL",
  "L YUS!eBIG!hIOTATED !aFITA!bIZHITS!aSHTAPIC!aTROKUTASTI A!aLATINATE MYSLITE!aCAUDATE CHRIVIlaS",
  "MALL LETTER AZUyaBUKYyaVEDEyaGLAGOLIyaDOBROyaYESTUyaZHIVETEyaDZELOyaZEMLJAyaIZHEzdNITIAL Izayb",
  "DJERVyaKAKOyaLJUDIJEybMYSLITyaNASHIyaONUyaPOKOJIybRITSyaSLOVOybTVRIDyaUKUybFRITybHERybOTyaPEya",
  "SHTAyaTSIybCHRIVyaSHAyaYERU#aIzbATyaSPIDERY HAyaYUyaSMALL YUS*a WITH TAILyaYOyaIOTATED SMALL Y",
  "USyeBIGyhIOTATED yaFITAybIZHITSyaSHTAPICyaTROKUTASTI AyaLATINATE MYSLITEyaCAUDATE CHRIVIaaLATI",
  "N CAPITAL LETTER L WITH DOUBLE BARg!SMALgaCAPITAL LETTER L WITH MIDDLE TILDEvbP WITH STROKvaR ",
  "WITH TAILgaSMALL LETTER A WITH STROKEthT WITH DIAGONALgaCAPITAL LETTER H WITH DESCENDERgzSMALg",
  "pCAPITAL LETTER KgzSMALgpCAPITAL LETTER ZgzSMALgaCAPITAL LETTER ALPHAvaM WITH HOOKvaTURNED A%a",
  "LPHAgaSMALL LETTER V WITH RIGHT HOOKgfCAPITAL LETTER W WITHguSMALtaV WITH CURLgaCAPITAL LETTER",
  " HALF HgpSMALtaTAILLESS PHItaE WITH NOTCHtaTURNED R WITH TAILtaO WITH LOW RING INSIDEgbLETTER ",
  "SMALL CAPITAL TURNED gaSUBSCRIPT SMALL LETTER JaaMODIFIER LETTER CAPITAL VaaLATIN CAPITAL LETT",
  "ER S WITH SWASH TAILvqZaaCOPTIC CAPITAL LETTER ALFAhnSMALhbCAPITAL LETTER VIDhnSMALhbCAPITAL L",
  "ETTER GAMMhoSMALhbCAPITAL LETTER DALDhoSMALhaCAPITAL LETTER EIEhmSMALhaCAPITAL LETTER SOUhmSMA",
  "LhaCAPITAL LETTER ZATAhnSMALhaCAPITAL LETTER HATEhnSMALhbCAPITAL LETTER THETHhpSMALhaCAPITAL L",
  "ETTER IAUDAhoSMALhbCAPITAL LETTER KAPhnSMALhbCAPITAL LETTER LAULhoSMALhaCAPITAL LETTER MIhlSMA",
  "LhbCAPITAL LETTER NhlSMALhbCAPITAL LETTER KShmSMALhaCAPITAL LETTER OhkSMALhaCAPITAL LETTER PIh",
  "lSMALhaCAPITAL LETTER ROhlSMALhaCAPITAL LETTER SIMAhnSMALhaCAPITAL LETTER TAUhmSMALhaCAPITAL L",
  "ETTER UAhlSMALhaCAPITAL LETTER FIhlSMALhbCAPITAL LETTER KHhmSMALhbCAPITAL LETTER PShmSMALhaCAP",
  "ITAL LETTER OOUhmSMALhaCAPITAL LETTER DIALECT-P ALEFhxSMALhaCAPITAL LETTER OLD COPTIC AINhxSMA",
  "LhaCAPITAL LETTER CRYPTOGRAMMIC EIEh!SMALhaCAPITAL LETTER DIALECT-P KAPAhxSMALhaCAPITAL LETTER",
  " DIALECT-P NIhvSMALhdCAPITAL LETTER CRYPTOGRAMMIChzSMALhaCAPITAL LETTER OLD COPTIC OOUhxSMALha",
  "CAPITAL LETTER SAMPIhoSMALhbCAPITAL LETTER CROSSED SHEhvSMALhfCAPITAL LETTER OLD COPTIChySMALh",
  "aCAPITAL LETTER OLD COPTIC ESHhxSMALhaCAPITAL LETTER AKHMIMIC KHEIhwSMALhbCAPITAL LETTER DIALE",
  "CT-P HORhxSMALhfCAPITAL LETTER OLD COPTIChySMALhaCAPITAL LETTER OLD COPTIC HAhwSMALhdCAPITAL L",
  "ETTER L-SHAPEDhuSMALhaCAPITAL LETTER OLD COPTIC HEIhxSMALhaCAPITAL LETTER OLD COPTIC HAThxSMAL",
  "haCAPITAL LETTER OLD COPTIC GANGIAh!SMALhbCAPITAL LETTER OLD COPTIC DJhxSMALhbCAPITAL LETTER O",
  "LD COPTIC SHIMhzSMALhgCAPITAL LETTER OLD NUBIANhzSMALhaCAPITAL LETTER OLD NUBIAN NGIhxSMALhbCA",
  "PITAL LETTER OLD NUBIAN NYhxSMALhaCAPITAL LETTER OLD NUBIAN WAUhxSMALiaYMBOL KAIoaMI ROoePoaST",
  "AUROSoaTAU ROodKHIoaSHIMA SIMAhaCAPITAL LETTER CRYPTOGRAMMIC SHEIh#SMALhaCAPITAL LETTER CRYPTO",
  "GRAMMIC GANGIAh%SMALhaCOMBINING NI ABOVEraSPIRITUS ASPER!aLENISiaAPITAL LETTER BOHAIRIC KHEIhw",
  "SMAL~2CF9haOLD NUBIAN FULL STOPsaDIRECT QUESTION MARKsuINsaVERSE DIVIDERhaFRACTION ONE HALFiaU",
  "LL STOPhaMORPHOLOGICAL DIVIDERaaGEORGIAN SMALL LETTER ANwcBwcGwbDOwbEwbVIwbZEwbTAwbIwbKAwaLASw",
  "aMANwaNARwaONwaPARwcZHwaRAEwaSANwaTARwaUNwaPHARwdKwaGHANwaQARwaSHINwdCxbAwaJILwcCxaHARwaXANwcJ",
  "HwaHAExbxbIwbWwaHARxaOE~2D27waYN~2D2DwbAE~2D30aaTIFINAGH LETTER YAsaBtaHsaGtaHHqaBERBER ACADEM",
  "Y YAJqdsaDtaHtaDuaHraEYraAFsaKqdTUAREG qaYAKHHsbqdBERBER ACADEMY qeTUAREGqbYAHsaAsaKHqeTUAREG ",
  "qaYAQqdTUAREG qaYIraAZHqeAHAGGAR qfTUAREGqaYALsaMsaNqbTUAREG YAGzaNGqaYAPraUraARtaRsaGHqeTUARE",
  "G qfAYERqaYAStaStaHsaTtaHsbCsaTTsaVsaWsaYsaZqdTAWELLEMET qbYAZraEraO~2D6FjaMODIFIER LETTER LAB",
  "IALIZATION MARKjfSEPARATOR~2D7FjaCONSONANT JOINERaaETHIOPIC SYLLABLE LOAscMscRscStcHscBscTscCs",
  "cNtcYscGLOTTAL scZscDtcDscJscTHsdCsdPtcsbGGWvaIvaEEwa~2DA0saSSAuaUuaIuaAAuaEEvauaO~2DA8saCCAua",
  "UuaIuaAAuaEEvauaO~2DB0saZZAuaUuaIuaAAuaEEvauaO~2DB8saCCHAvaUvaIvaAAvaEEwavaO~2DC0saQYAuaUuaIua",
  "AAuaEEvauaO~2DC8saKYAuaUuaIuaAAuaEEvauaO~2DD0saXYAuaUuaIuaAAuaEEvauaO~2DD8saGYAuaUuaIuaAAuaEEv",
  "auaO~2DE0aaCOMBINING CYRILLIC LETTER BE!bV!bGH!bD!bZH#b!aKA!aEL#aM#aN!aO!aPE!aER#aS!aTE!aHA!aT",
  "SE!bCH!aSHA$bCH!bFIT!aES-TE!aA!aIE!aDJERV!aMONOGRAPH UK!aYAT#aU!aIOTIFIED A!aLITTLE YUS!eBIG!h",
  "IOTIFIED aaRIGHT ANGLE SUBSTITUTION MARKERmtDOTTED aaLEFT SUBSTITUTION BRACKETawRIGHavLEFT DOT",
  "TEDa%RIGHbaAISED INTERPOLATION MARKERhuDOTTED alDOTTED TRANSPOSIaaLEFT TRANSPOSITION BRACKETax",
  "RIGHbaAISED SQUAREaaLEFT RAISED OMISSION BRACKETazRIGHaaEDITORIAL CORONISabPARAGRAPHOalFORKED ",
  "asREVERSED aaHYPODIASTOLEaaDOTTED OBELOScaWNWARDS ANCORAamUPaaDOTTED RIGHT-POINTING ANGLEcaUBL",
  "E OBLIQUE HYPHENaaINVERTED INTERROBANGaaPALM BRANCHaaHYPHEN WITH DIAERESISaaTILDE WITH RING AB",
  "OVEaaLEFT LOW PARAPHRASE BRACKETayRIGHaaTILDE WITH DOT ABOVEpaBELOWaaLEFT VERTICAL BAR WITH QU",
  "ILLazRIGHaaTOP LEFT HALF BRACKETeoRIGHaoBOTTOM LEFhoRIGHaiLEFT SIDEWAYS UauRIGHaaLEFT DOUBLE P",
  "ARENTHESISauRIGHaaTWO DOTS OVER ONE DOT PUNCTUATIONamONE DOT OVER TWO DOTSamSQUARED FOUR DOTaa",
  "FIVE DOT MARKafREVERSED QUESTIONaaVERTICAL TILDEaaRING POINTabWORD SEPARATOR MIDDLE DOaaTURNED",
  " COMMAaaRAISED DOThaCOMMAaaTURNED SEMICOLONaaDAGGER WITH LEFT GUARDmhRIGHaaTURNED DAGGERbaOP H",
  "ALF SECTION SIGNbaWO-EM DASHbiHREEaaSTENOGRAPHIC FULL STOPaaVERTICAL SIX DOTSaaWIGGLY VERTICAL",
  " LINEaaCAPITULUMaaDOUBLE HYPHENaaREVERSED COMMAaaDOUBLE LOW-REVERSED-9 QUOTATION MARKbaASH WIT",
  "H LEFT UPTURNbaOUBLE SUSPENSION MARKaaINVERTED LOW KAVYKAta WITH KAVYKA ABOVEaaLOW KAVYKAka WI",
  "TH DOTaaDOUBLE STACKED COMMAcaTTED SOLIDUSaaTRIPLE DAGGERaaMEDIEVAL COMMAaaPARAGRAPHUS MARKbhU",
  "NCTUS ELEVATaaCORNISH VERSE DIVIDERbbROSS PATTY WITH RIGHT CROSSBArkLEFaaTIRONIAN SIGN CAPITAL",
  " ETaaMEDIEVAL EXCLAMATION MARKjjQUESaaLEFT SQUARE BRACKET WITH STROKEa$RIGHahLEFT SQUARE BRACK",
  "ET WITH DOUBLEa,RIGHaaTOP HALF LEFT PARENTHESISjnRIGHanBOTTOM HALF LEFmnRIGHaaOBLIQUE HYPHEN~2",
  "E80aaCJK RADICAL REPEATmaCLIFFmaSECOND ONEtaTWOuaHREEmaPERSONmaBOXmaTABLEmbKNIFE ONsaTWOmaDIVI",
  "NATIONmaSEALnaMALL ONEsaTWOmaLAME ONEraTWOsaHREEraFOURmaSNAKEmaTHREADmaSNOUT ONEsaTWOmaHEART O",
  "NEsaTWOnaANDmaRAP~2E9BmaCHOKEmaSUNmbMOOmaDEATHmaMOTHERmaCIVILIANmaWATER ONEsaTWOmaFIREmbPAW ON",
  "qaTWOmaSIMPLIFIED HALF TREE TRUNKmaCOWmaDOGmaJADEmaBOLT OF CLOTHmaEYEmbSPIRIT ONtaTWOmbBAMBOma",
  "SILKmeC-SIMPLIFIED maNET ONEqaTWOraHREEqaFOURmaMESHmaSHEEPmaRAMmaEWEmaOLDmaBRUSH ONEsaTWOmaMEA",
  "TnaORTARmaGRASS ONEsaTWOtaHREEmaTIGERmaCLOTHESmaWEST ONEraTWOmaC-SIMPLIFIED SEEmaSIMPLIFIED HO",
  "RNmemaC-SIMPLIFIED SPEECH!aHELLmaFOOTmbC-SIMPLIFIED CARmaSIMPLIFIED WALKmaWALK ONEraTWOmaCITYn",
  "a-SIMPLIFIED GOLDmaLONG ONEraTWOmaC-SIMPLIFIED LONGzaGATEmbMOUND ONsaTWOmaRAINmaBLUEmaC-SIMPLI",
  "FIED TANNED LEATHERzaLEAFzaWINDzaFLYmaEAT ONEqaTWOraHREEmaC-SIMPLIFIED EATmaHEADmaC-SIMPLIFIED",
  " HORSEmbBONmaGHOSTmaC-SIMPLIFIED FISHzaBIRDzaSALTmbSIMPLIFIED WHEAxaYELLOWmaC-SIMPLIFIED FROGm",
  "aJ-SIMPLIFIED EVENmqCmaJ-SIMPLIFIED TOOTHmrCmaJ-SIMPLIFIED DRAGONmsCmaTURTLEmgJ-SIMPLIFIED msC",
  "~2F00abKANGXI RADICAL ONpcLIpaDOTpaSLASHqaECONDpaHOOKpaTWOpaLIDpaMANpaLEGSpaENTERqaIGHTpaDOWN ",
  "BOXpaCOVERpaICEpbTABLpaOPEN BOXpaKNIFEpaPOWERpaWRAPpaSPOONpaRIGHT OPEN BOXpaHIDING ENCLOSUREpa",
  "TENpbDIVINATIOpaSEALpaCLIFFpaPRIVATEpaAGAINpaMOUTHpaENCLOSUREqaARTHpaSCHOLARpaGOra SLOWLYpaEVE",
  "NINGpbBIpaWOMANpaCHILDpaROOFpaINCHpaSMALLpaLAMEpbCORPSpaSPROUTpaMOUNTAINpaRIVERpaWORKpaONESELF",
  "paTURBANpaDRYpaSHORT THREADpaDOTTED CLIFFpaLONG STRIDEpaTWO HANDSpaSHOOTpaBOWpaSNOUTpaBRISTLEp",
  "aSTEPpaHEARTqaALBERDpaDOORpaHANDpaBRANCHpaRAPpaSCRIPTpaDIPPERpaAXEpbSQUARpaNOTpaSUNqaAYpaMOONp",
  "aTREEpaLACKpaSTOPpaDEATHpaWEAPONpaDO NOTpaCOMPAREpaFURpaCLANpaSTEAMpaWATERpaFIREpaCLAWpaFATHER",
  "paDOUBLE XpaHALF TREE TRUNKpaSLICEpaFANGpaCOWpaDOGpaPROFOUNDpaJADEpaMELONpaTILEpaSWEETpaLIFEpb",
  "USpaFIELDpaBOLT OF CLOTHpaSICKNESSpaDOTTED TENTpaWHITEpaSKINpaDISHpaEYEpaSPEARpaARROWpaSTONEqa",
  "PIRITpaTRACKpaGRAINpaCAVEpaSTANDpaBAMBOOpaRICEpaSILKpaJARpaNETpaSHEEPpaFEATHERpaOLDpbANpaPLOWp",
  "aEARpaBRUSHpaMEATqaINISTERpaSELFpaARRIVEpaMORTARpaTONGUEpbOPPOSpaBOATpaSTOPPINGpaCOLORpaGRASSp",
  "aTIGERpaINSECTpaBLOODpaWALK ENCLOSUREpaCLOTHESpaWESTpaSEEpaHORNpaSPEECHpaVALLEYpaBEANpaPIGpaBA",
  "DGERpaSHELLpaREDqaUNpaFOOTpaBODYpaCARTpaBITTERpaMORNINGpaWALKpaCITYpaWINEpaDISTINGUISHpaVILLAG",
  "EpaGOLDpaLONGpaGATEpaMOUNDpaSLAVEqaHORT TAILED BIRDpaRAINpaBLUEpaWRONGpaFACEpaLEATHERphTANNED ",
  "paLEEKpaSOUNDpaLEAFpaWINDpaFLYpaEATpaHEADpaFRAGRANTpaHORSEpbBONpaTALLpaHAIRpaFIGHTpaSACRIFICIA",
  "L WINEpaCAULDRONpaGHOSTpaFISHpaBIRDpaSALTpaDEERpaWHEATpaHEMPpaYELLOWpaMILLETpaBLACKpaEMBROIDER",
  "YpaFROGpaTRIPODpaDRUMpaRATpaNOSEpaEVENpaTOOTHpaDRAGONpaTURTLEpbFLUT~2FF0aaIDEOGRAPHIC DESCRIPT",
  "ION CHARACTER LEFT TO RIGHT+aABOVE TO BELOW+aLEFT TO MIDDLE AND RIGHT+aABOVE TO MIDDLE AND BEL",
  "OW+aFULL SURROUND+aSURROUND FROM ABOVE|a BELOW|a LEFT|f UPPER|b UPPER RIGH|b LOWER LEF+aOVERLA",
  "ID~3000maSPACEmaCOMMAmaFULL STOPaaDITTO MARKaaJAPANESE INDUSTRIAL STANDARD SYMBOLaaIDEOGRAPHIC",
  " ITERATION MARKmfCLOSINGmaNUMBER ZEROaaLEFT ANGLE BRACKETapRIGHaoLEFT DOUBLEawRIGHaiLEFT CORNE",
  "RaqRIGHapLEFT WHITEawRIGHajLEFT BLACK LENTICULAa!RIGHaaPOSTAL MARKafGETAaaLEFT TORTOISE SHELL ",
  "BRACKETayRIGHaiLEFT WHITE LENTICULARa!RIGHaiLEFT WHITE TORTOISE SHELLa&RIGHaiLEFT WHITE SQUARE",
  "awRIGHaaWAVE DASHaaREVERSED DOUBLE PRIME QUOTATION MARKa#a#LOW aaPOSTAL MARK FACEabHANGZHOU NU",
  "MERAL ONraTWOsaHREEraFOURsaIVEraSIXsaEVENraEIGHTraNINEaaIDEOGRAPHIC LEVEL TONE MARKmkRISINGmnD",
  "EPARTmnENTERakHANGUL SINGLE DOThqDOUBaaWAVY DASHaaVERTICAL KANA REPEAT MARKveWITH VOICED SOUND",
  " vaMARK UPPER HALFvpWITH VOICED SOUND vhMARK LOWaaCIRCLED POSTAL MARKaaIDEOGRAPHIC TELEGRAPH L",
  "INE FEED SEPARATOR SYMBOLaaHANGZHOU NUMERAL TENsaWENTYscHIRaaVERTICAL IDEOGRAPHIC ITERATION MA",
  "RKafMASUafPART ALTERNATIONaaIDEOGRAPHIC VARIATION INDICATORmaHALF FILL SPACE~3041aaHIRAGANA LE",
  "TTER SMALL AqbqaSMALL IqbqaSMALL UqbqaSMALL EqbqaSMALL OqbqaKAqbGqaKIqbGqaKUqbGqaKEqbGqaKOqbGq",
  "aSAqbZqaSIqbZqaSUqbZqaSEqbZqaSOqbZqaTAqbDqaTIqbDqaSMALL TUqcqbDqaTEqbDqaTOqbDqaNAraIraUraEraOq",
  "aHAqbBqbPqaHIqbBqbPqaHUqbBqbPqaHEqbBqbPqaHOqbBqbPqaMAraIraUraEraOqaSMALL YAqcqaSMALL YUqcqaSMA",
  "LL YOqcqaRAraIraUraEraOqaSMALL WAqcraIraEraOqaNqaVUqaSMALL KAxaE~3099aaCOMBINING KATAKANA-HIRA",
  "GANA VOICED SOUND MARK$rSEMI-arKATAKANA-HIRAGANA srSEMI-afHIRAGANA ITERATIONjoVOICED jaDIGRAPH",
  " YORIaaKATAKANA-HIRAGANA DOUBLE HYPHENia LETTER SMALL AqbqaSMALL IqbqaSMALL UqbqaSMALL EqbqaSM",
  "ALL OqbqaKAqbGqaKIqbGqaKUqbGqaKEqbGqaKOqbGqaSAqbZqaSIqbZqaSUqbZqaSEqbZqaSOqbZqaTAqbDqaTIqbDqaS",
  "MALL TUqcqbDqaTEqbDqaTOqbDqaNAraIraUraEraOqaHAqbBqbPqaHIqbBqbPqaHUqbBqbPqaHEqbBqbPqaHOqbBqbPqa",
  "MAraIraUraEraOqaSMALL YAqcqaSMALL YUqcqaSMALL YOqcqaRAraIraUraEraOqaSMALL WAqcraIraEraOqaNqaVU",
  "qaSMALL KAxaEqaVAraIraEraOjaMIDDLE DOTia-HIRAGANA PROLONGED SOUND MARKif ITERATIONjoVOICED jaD",
  "IGRAPH KOTO~3105aaBOPOMOFO LETTER BqaPqaMqaFqaDqaTqaNqaLqaGqaKqaHqaJqaQqaXqaZHqbCqbSqaRqaZqaCq",
  "aSqaAqaOqaEraHqaAIqbEqaAUqbOqaANqbEqaANGqcEraRqaIqaUqbIqaVqaNGqaGNqaIHqaO WITH DOT ABOVEqaNN~3",
  "131aaHANGUL LETTER KIYEOKogSSANGoaKIYEOK-SIOSoaNIEUNta-CIEUCuaHIEUHoaTIKEUTogSSANGoaRIEULta-KI",
  "YEOKuaMIEUMuaPIEUPuaSIOSuaTHIEUTHubPHIEUPubHIEUoaMIEUMoaPIEUPofSSANGoaPIEUP-SIOSoepdSANGSoaIEU",
  "NGoaCIEUCofSSANGoaCHIEUCHobKHIEUKobTHIEUTobPHIEUPobHIEUoaApaEoaYAqaEoaEOpaoaYEOqaoaOoaWAqaEobO",
  "oaYOoaUoaWEOqapaIoaYUobEoaYIobhaFILLERhaLETTER SSANGNIEUNoaNIEUN-TIKEUTuaSIOSuePANoeRIEUL-KIYE",
  "OK-uaTIKEUTuaPIEUP-SIOSveANuaYEORINHIEUHoaMIEUM-PIEUPuaSIOSuePANoaKAPYEOUNMIEUMoaPIEUP-KIYEOKu",
  "aTIKEUTuaSIOS-KIYEOKzaTIKEUTuaCIEUCuaTHIEUTHoaKAPYEOUNPIEUPwfSSANGoaSIOS-KIYEOKtaNIEUNtaTIKEUT",
  "taPIEUPtaCIEUCoaPANSIOSoaSSANGIEUNGofYESwa-SIOSxePANoaKAPYEOUNPHIEUPHobSSANGHIEUofYEORINpaO-YA",
  "taEraIpaU-YEOtaraIoaARAEAtaE~3190aaIDEOGRAPHIC ANNOTATION LINKING MARKxfREVERSExgONxfTWOyfHREE",
  "xfFOURxfTOPxfMIDDLExfBOTTOMxfFIRSTxfSECONDxgTHIRxfFOURTHxfHEAVENxfEARTHxfMANaaBOPOMOFO LETTER ",
  "BUqaZIqbJqaGUqaEEraNNqaOOraNNqaIRqaANNqcIqcUqaIMqaNGGqaAINNrcUraMqbOraNGqaINNNjaFINAL LETTER P",
  "waTwaKwaHjbLETTER GqbLqaZYjaFINAL LETTER GjaLETTER GWqbKqaOEqaAHaaCJK STROKE TlaWGlbXlcBlaSWla",
  "HZZnaGmaPmaZWGldSlaHZTnaZPmaPWGmaZWnaZZlaNlaHlaSlaPlbSlaDlaHZmaGlaSZmbWmaTmaGlaPDmaZlaTNlaSZZm",
  "aWGlcHXmbZZZlbPlaQ~31F0aaKATAKANA LETTER SMALL KUwaSIxaUwaTOwaNUwaHAxaIxaUxaExaOwaMUwaRAxaIxaU",
  "xaExaOaaPARENTHESIZED HANGUL KIYEOKvaNIEUNvaTIKEUTvaRIEULvaMIEUMvaPIEUPvaSIOSvaIEUNGvaCIEUCwaH",
  "IEUCHvbKHIEUKvbTHIEUTvbPHIEUPvbHIEUvaKIYEOK AvcNIEUNvcTIKEUTvcRIEULvcMIEUMvcPIEUPvcSIOSvcIEUNG",
  "vcCIEUCwcHIEUCHvdKHIEUKvdTHIEUTvdPHIEUPvdHIEUvaCIEUC UoaKOREAN CHARACTER OJEON)a HU~3220oaIDEO",
  "GRAPH ONEyaTWOzaHREEyaFOURzaIVEyaSIXzaEVENyaEIGHTyaNINEyaTENybMOOyaFIREyaWATERzaOODyaMETALyaEA",
  "RTHyaSUNzaTOCKyaHAVEyaSOCIETYyaNAMEyaSPECIALyeFINANyaCONGRATULATIONyaLABORyaREPRESENTyaCALLyaS",
  "TUDYzaUPERVISEydENTERPRybRESOURCycALLIANyaFESTIVALyaRESTyaSELFyaREACHaaCIRCLED IDEOGRAPH QUEST",
  "IONsbKINDERGARTEsaSCHOOLsaKOTOiaNUMBER TEN ON BLACK SQUAREqqWENTYqsHIRptFOqsIFpsSIXqsEVENpsEIG",
  "HaaPARTNERSHIP SIGNaaCIRCLED NUMBER TWENTY ONEwaTWOxaHREEwaFOURxaIVEwaSIXxaEVENwaEIGHTwaNINEqa",
  "HIRTYva ONEwaTWOxaHREEwaFOURxaIVEiaHANGUL KIYEOKpaNIEUNpaTIKEUTpaRIEULpaMIEUMpaPIEUPpaSIOSpaIE",
  "UNGpaCIEUCqaHIEUCHpbKHIEUKpbTHIEUTpbPHIEUPpbHIEUpaKIYEOK ApcNIEUNpcTIKEUTpcRIEULpcMIEUMpcPIEUP",
  "pcSIOSpcIEUNGpcCIEUCqcHIEUCHpdKHIEUKpdTHIEUTpdPHIEUPpdHIEUiaKOREAN CHARACTER CHAMKOzaJUEUIiaHA",
  "NGUL IEUNG UaaKOREAN STANDARD SYMBOLaaCIRCLED IDEOGRAPH ONEsaTWOtaHREEsaFOURtaIVEsaSIXtaEVENsa",
  "EIGHTsaNINEsaTENsbMOOsaFIREsaWATERtaOODsaMETALsaEARTHsaSUNtaTOCKsaHAVEsaSOCIETYsaNAMEsaSPECIAL",
  "seFINANsaCONGRATULATIONsaLABORsaSECRETsaMALEseFEscSUITABsaEXCELLENTscPRIsaATTENTIONsaITEMsaRES",
  "TsaCOPYuaRRECTsaHIGHsaCENTREsaLOWtaEFTsbRIGHsaMEDICINEsaRELIGIONsaSTUDYtaUPERVISEsdENTERPRsbRE",
  "SOURCscALLIANsaNIGHTiaNUMBER THIRTY SIXxaEVENwaEIGHTwaNINEpaFORTYua ONEvaTWOwaHREEvaFOURwaIVEv",
  "aSIXwaEVENvaEIGHTvaNINEqaIFTYabIDEOGRAPHIC TELEGRAPH SYMBOL FOR JANUAR*eFEBR*aMARCH*aAPRIL*aMA",
  "Y*aJUNE,aLY*aAUGUST*aSEPTEMBER*dOCTO*dNOVEM*fDECaaSQUARE HGhbERiaVaaLIMITED LIABILITY SIGNaaCI",
  "RCLED KATAKANA AraIraUraEraOraKAsaIsaUsaEsaOraSAsaIsaUsaEsaOraTAsaIsaUsaEsaOraNAsaIsaUsaEsaOra",
  "HAsaIsaUsaEsaOraMAsaIsaUsaEsaOraYAsaUsaOraRAsaIsaUsaEsaOraWAsaIsaEsaOaaSQUARE ERA NAME REIWAha",
  "APAATOiaRUHUAibNPEiaARUhbININGjaTIhaUONhaESUKUUDOiaEKAAhaONSUibOMhaKAIRIjaRATTOkaORIIhaGARONja",
  "NMAibIGjaNIIhcKYURhaGIRUDAAhaKIROlaGURAMUlbMEETORlaWATTOhaGURAMUnaTONhaKURUZEIROkaOONEiaEESUia",
  "ORUNAjaOPOhaSAIKURUjbNTIIMibIRINGiaENTIlaOhaDAASUiaESIiaORUhaTONhaNANOibOTThaHAITUhaPAASENTOka",
  "TUhbBAARERhcPIASUTOjcKUkaOhaBIRUhaHUARADDOjbIIThaBUSSYERUhaHURANiaEKUTAARUhaPESOjaNIHIhaHERUTU",
  "hbPENSjaEZIhaBEETAhaPOINTOhcBORUhaHONhaPONDOhaHOORUkaNhaMAIKUROkaRUjaHHAjaRUKUjaNSYONicIKURjaR",
  "IlaBAARUiaEGAlaTONjaETORUhaYAADOkaRUiaUANhaRITTORUjaRAiaUPIIjaUBURUibEMjaNTOGENhaWATTOabIDEOGR",
  "APHIC TELEGRAPH SYMBOL FOR HOUR ZER;aONE;aTWO<aHREE;aFOUR<aIVE;aSIX<aEVEN;aEIGHT;aNINE;aTEN;cE",
  "LEV;aTWELVE<aHIRTEEN;fFOU<eIF;eSIX<eEVEN;eEIGH;eNINE;aTWENTY]a-ONE^aTWO_aHREE^aFOURaaSQUARE HP",
  "AhbDhaAUhaBARhaOVhaPChaDMja SQUAREDkcCUBhaIUhaERA NAME HEISEIqaSYOUWAqaTAISYOUqaMEIZIhaCORPORA",
  "TIONhaPA AMPShaNAhbMU ibhbKiaBhbMhbGhaCALhdKhaPFhbNhbMU kaGibhbKhaHZhcKhcMhcGhcThaMU LibhbDhbK",
  "haFMhbNhbMU ibhbChbKhaMM SQUAREDhjChjhjKhcMM CUBhhChhhhKhaM OVER Spa SQUAREDhaPAhcKhcMhcGhaRAD",
  "ka OVER Sra SQUAREDhaPShbNhbMU ibhaPVhbNhbMU ibhbKhaMV MEGAhaPWhbNhbMU ibhbKhaMW MEGAhaK OHMhe",
  "MhbAhaBQhaCCiaDia OVER KGiaOhaDBhaGYhaHAiaPhaINhaKKiaM CAPITALiaThaLMiaNiaOGiaXhaMB SMALLibIib",
  "OhaPHiaMibPiaRhbSiaVhaWBhaV OVER MhhAaaIDEOGRAPHIC TELEGRAPH SYMBOL FOR DAY ONE:aTWO;aHREE:aFO",
  "UR;aIVE:aSIX;aEVEN:aEIGHT:aNINE:aTEN:cELEV:aTWELVE;aHIRTEEN:fFOU;eIF:eSIX;eEVEN:eEIGH:eNINE:aT",
  "WENTY[a-ONE]aTWO^aHREE]aFOUR^aIVE]aSIX^aEVEN]aEIGHT]aNINE;aHIRTY[a-ONEaaSQUARE GAL~4DC0aaHEXAG",
  "RAM FOR THE CREATIVE HEAVENraRECEPTIVE EARTHnaDIFFICULTY AT THE BEGINNINGnaYOUTHFUL FOLLYnaWAI",
  "TINGnaCONFLICTnaTHE ARMYnaHOLDING TOGETHERnaSMALL TAMINGndTREADnaPEACEnaSTANDSTILLnaFELLOWSHIP",
  "naGREAT POSSESSIONnaMODESTYnaENTHUSIASMnaFOLLOWINGnaWORK ON THE DECAYEDnaAPPROACHnaCONTEMPLATI",
  "ONnaBITING THROUGHnaGRACEnaSPLITTING APARTnaRETURNnaINNOCENCEnaGREAT TAMINGnaMOUTH CORNERSnaGR",
  "EAT PREPONDERANCEnaTHE ABYSMAL WATERraCLINGING FIREnbINFLUENCnaDURATIONnaRETREATnaGREAT POWERn",
  "aPROGRESSnaDARKENING OF THE LIGHTnaTHE FAMILYnaOPPOSITIONoeBSTRUCnaDELIVERANCEpbCREASngINnaBRE",
  "AKTHROUGHnaCOMING TO MEETnaGATHERING TOGETHERnaPUSHING UPWARDnaOPPRESSIONnaTHE WELLnaREVOLUTIO",
  "NncTHE CAULDRraAROUSING THUNDERraKEEPING STILL MOUNTAINnaDEVELOPMENTnaTHE MARRYING MAIDENnaABU",
  "NDANCEnaTHE WANDERERraGENTLE WINDraJOYOUS LAKEnaDISPERSIONndLIMITATnaINNER TRUTHnaSMALL PREPON",
  "DERANCEnaAFTER COMPLETIONnlBEFORE~A000aaYI SYLLABLE ITnaXnanaPnaEToaXoaoaPmaATnaXnanaPmaUOXoao",
  "aPmaOTnaXnanaPmaEXnamaWUmaBIToaXoaoaPoaETpaXpapaPnaAToaXoaoaPnaUOXpapaPnaOToaXoaoaPnaEXoaoaPna",
  "UToaXoaoaPoaRXpanaYToaXoaoaPoaRXpamaPIToaXoaoaPoaEXpapaPnaAToaXoaoaPnaUOXpapaPnaOToaXoaoaPnaUT",
  "oaXoaoaPoaRXpanaYToaXoaoaPoaRXpamaBBITpaXpapaPpaETqaXqaqaPoaATpaXpapaPoaUOXqaqaPoaOTpaXpapaPoa",
  "EXpapaPoaUTpaXpapaPpaRXqaoaYTpaXpapaPmaNBITpaXpapaPpaEXqaqaPoaATpaXpapaPoaOTpaXpapaPoaUTpaXpap",
  "aPpaRXqaoaYTpaXpapaPpaRXqamaHMITpaXpapaPpaEXqaqaPoaATpaXpapaPoaUOXqaqaPoaOTpaXpapaPoaUTpaXpapa",
  "PpaRXqaoaYXpapaPpaRXqamaMIToaXoaoaPoaEXpapaPnaAToaXoaoaPnaUOTpaXpapaPnaOToaXoaoaPnaEXoanaUToaX",
  "oaoaPoaRXpanaYToaXoaoaPmaFIToaXoaoaPnaAToaXoaoaPnaOXoaoaPnaUToaXoaoaPoaRXpanaYToaXoaoaPmaVIToa",
  "XoaoaPoaETpaXpapaPnaAToaXoaoaPnaOToaXoaoaPnaEXoaPnaUToaXoaoaPoaRXpanaYToaXoaoaPoaRXpamaDIToaXo",
  "aoaPoaEXpapaPnaAToaXoaoaPnaUOXpanaOToaXoaoaPnaEXoaoaPnaUToaXoaoaPoaRXpamaTIToaXoaoaPoaEXpapaPn",
  "aAToaXoaoaPnaUOTpaXpapaPnaOToaXoaoaPnaEXoaoaPnaUToaXoaoaPoaRXpamaDDITpaXpapaPpaEXqaqaPoaATpaXp",
  "apaPoaUOXqaqaPoaOTpaXpapaPoaEXpapaPoaUTpaXpapaPpaRXqamaNDITpaXpapaPpaEXqaoaATpaXpapaPoaOTpaXpa",
  "paPoaEXpapaPoaUTpaXpapaPpaRXqamaHNITpaXpapaPpaETqaXqaqaPoaATpaXpapaPoaUOXqaoaOTpaXpaPoaEXpapaP",
  "oaUTmbNIoaXoaoaPoaEXpapaPnaAXoaoaPnaUOXpapaPnaOToaXoaoaPnaEXoaoaPnaUToaXoaoaPoaRXpamaHLITpaXpa",
  "paPpaEXqaqaPoaATpaXpapaPoaUOXqaqaPoaOXpapaPoaEXpapaPoaUTpaXpapaPpaRXqaoaYTpaXpapaPpaRXqamaLITo",
  "aXoaoaPoaETpaXpapaPnaAToaXoaoaPnaUOTpaXpapaPnaOToaXoaoaPnaEXoaoaPnaUToaXoaoaPoaRXpanaYToaXoaoa",
  "PoaRXpamaGIToaXoaoaPoaETpaXpapaPnaAToaXoaoaPnaUOTpaXpapaPnaOToaXoaoaPnaEToaXoaoaPnaUToaXoaoaPo",
  "aRXpamaKIToaXoaoaPoaEXpapaPnaAToaXoaoaPnaUOXpapaPnaOToaXoaoaPnaEToaXoaoaPnaUToaXoaoaPoaRXpamaG",
  "GITpaXpapaEXqaqaPoaATpaXpapaPoaUOTqaXqaqaPoaOTpaXpapaPoaETpaXpapaPoaUTpaXpapaPpaRXqamaMGIEXqao",
  "aATpaXpapaPoaUOXqaqaPoaOTpaXpapaPoaEXpapaPoaUTpaXpapaPpaRXqamaHXITpaXpapaPpaETqaXqaqaPoaATpaXp",
  "apaPoaUOTqaXqaqaPoaOTpaXpapaPoaEXpapaPmaNGIEXqaqaPoaATpaXpapaPoaUOTqaXqaoaOTpaXpapaPoaEXpapaPm",
  "aHIToaEXpanaAToaXoaoaPnaUOTpaXpapaPnaOToaXoaoaPnaEXoaoaPmaWAToaXoaoaPnaUOXpapaPnaOXoaoaPnaEXoa",
  "oaPmaZIToaXoaoaPoaEXpapaPnaAToaXoaoaPnaUOXpapaPnaOToaXoaoaPnaEXoaoaPnaUToaXoaoaPoaRXpanaYToaXo",
  "aoaPoaRXpamaCIToaXoaoaPoaETpaXpapaPnaAToaXoaoaPnaUOXpapaPnaOToaXoaoaPnaEXoaoaPnaUToaXoaoaPoaRX",
  "panaYToaXoaoaPoaRXpamaZZITpaXpapaPpaETqaXqaqaPoaATpaXpapaPoaOXpapaPoaEXpapaPoaUXpapaPpaRXqaoaY",
  "TpaXpapaPpaRXqamaNZITpaXpapaPpaEXqaqaPoaATpaXpapaPoaUOXqaoaOXpaPoaEXpaoaUXpapaPpaRXqaoaYTpaXpa",
  "paPpaRXqamaSIToaXoaoaPoaEXpapaPnaAToaXoaoaPnaUOXpapaPnaOToaXoaoaPnaEXoaoaPnaUToaXoaoaPoaRXpana",
  "YToaXoaoaPoaRXpanaSITpaXpapaPpaEXqaqaPoaATpaXpapaPoaOTpaXpapaPoaEXpapaPoaUTpaXpapaPoaYTpaXpapa",
  "PpaRXqamaZHATpaXpapaPoaUOXqaqaPoaOTpaXpapaPoaETpaXpapaPoaUTpaXpapaPpaRXqaoaYTpaXpapaPpaRXqamaC",
  "HATpaXpapaPoaUOTqaXqaqaPoaOTpaXpapaPoaETpaXpapaPoaUXpapaPpaRXqaoaYTpaXpapaPpaRXqamaRRAXpaoaUOX",
  "qaoaOTpaXpapaPoaETpaXpapaPoaUTpaXpapaPpaRXqaoaYTpaXpapaPpaRXqamaNRATpaXpapaPoaOXpapaPoaETpaXpa",
  "paPoaUTpaXpapaPpaRXqaoaYTpaXpapaPpaRXqamaSHATpaXpapaPoaUOXqaqaPoaOTpaXpapaPoaETpaXpapaPoaUTpaX",
  "papaPpaRXqaoaYTpaXpapaPpaRXqamaRAToaXoaoaPnaUOXpapaPnaOToaXoaoaPnaEXoaoaPnaUToaXoaoaPoaRXpanaY",
  "ToaXoaoaPoaRXpamaJIToaXoaoaPoaETpaXpapaPnaUOTpaXpapaPnaOToaXoaoaPnaUToaXoaoaPoaRXpanaYToaXoaoa",
  "PoaRXpamaQIToaXoaoaPoaETpaXpapaPnaUOTpaXpapaPnaOToaXoaoaPnaUToaXoaoaPoaRXpanaYToaXoaoaPoaRXpam",
  "aJJITpaXpapaPpaETqaXqaqaPoaUOXqaqaPoaOTpaXpapaPoaUTpaXpapaPpaRXqaoaYTpaXpapaPmaNJITpaXpapaPpaE",
  "TqaXqaqaPoaUOXqaoaOTpaXpapaPoaUXpapaPpaRXqaoaYTpaXpapaPpaRXqanaYITpaXpapaPpaETqaXqaqaPoaUOXqaq",
  "aPoaOTpaXpapaPoaUTpaXpapaPmaXIToaXoaoaPoaETpaXpapaPnaUOXpanaOToaXoaoaPnaYToaXoaoaPoaRXpamaYITo",
  "aXoaoaPoaETpaXpapaPnaUOTpaXpapaPnaOToaXoaoaPnaUToaXoaoaPoaRXpanaYToaXoaoaPoaRXpa~A490daRADICAL",
  " QOTlaLIlaKITlaNYIPlbCYlaSSIlaGGOPmbElaMIlaHXITlaLYRlaBBUTlaMOPlaYOlaPUTlaHXUOlaTATlaGAlaZUPla",
  "CYTlaDDURlcBlaGGUOlaNYOPlaTUlaOPlaJJUTlbZOlbPYlaHMOlaYITlaVURlaSHYlaVEPlaZAlaJOlaNZUPlaJJYlaGO",
  "TlaJJIElaWOlaDUlaSHURlaLIElaCYmaUOPmbIlbHXOlaSHATlaZURlaSHOPlaCHElaZZIETlaNBIElbK~A4D0aaLISU L",
  "ETTER BAmbPnbHmbDmbTnbHmbGmbKnbHmbJmbCnbHmbDZmbTSobHmbMmbNmbLmbSmbZHnbmbNGmbHmbXmbHHmbFmbWmbSH",
  "mbYmbGHmbnaEmbnaUmaImaOmaUnaEnaHmaOEmaTONE MYA TIraNA POraMYA CYAvaBOvaNAvaJEUfaPUNCTUATION CO",
  "MMAraFULL STOPaaVAI SYLLABLE EEpaNnaHEEncWqaNnaPEEncBHocndMncKPncMGBnencFncVncTocHndDpcHncLncR",
  "ncDndNncSocHncZocHncCncJndNncYncKncNGGndncMncNocYnaIoaNnaHIpaNnaWIpaNnaPInbBHobncMnbKPnbMGBndn",
  "bFnbVnbTobHncDpbHnbLnbRnbDncNnbSobHnbZobHnbCnbJncNnbYnbKnbNGGncnbMnbNobYnaAoaNncNGnaHApaNnaWAp",
  "aNnaPAnbBHobncMnbKPqaNnaMGBAndnbFnbVnbTobHncDpbHnbLnbRnbDncNnbSobHnbZobHnbCnbJncNnbYnbKpaNnaNG",
  "GAncnbMnbNobYnaOOpaNnaHOOncWqaNnaPOOncBHocndMncKPncMGBnencFncVncTocHndDpcHncLncRncDndNncSocHnc",
  "ZocHncCncJndNncYncKncNGGndncMncNocYnaUoaNnaHUpaNnaWUpaNnaPUnbBHobncMnbKPnbMGBndnbFnbVnbTobHncD",
  "pbHnbLnbRnbDncNnbSobHnbZobHnbCnbJncNnbYnbKnbNGGncnbMnbNobYnaOoaNncNGnaHOpaNnaWOpaNnaPOnbBHobnc",
  "MnbKPnbMGBndqaNnaFOnbVnbTobHncDpbHnbLnbRnbDncNnbSobHnbZobHnbCnbJncNnbYnbKnbNGGncnbMnbNobYnaEoa",
  "NncNGnaHEpaNnaWEpaNnaPEnbBHobncMnbKPqaNnaMGBEndqaNnaFEnbVnbTobHncDpbHnbLnbRnbDncNnbSobHnbZobHn",
  "bCnbJncNnbYnbKnbNGGraNnaGEpaNnaMEnbNobYoaGnaLENGTHENEReaCOMMAeaFULL STOPeaQUESTION MARKeaSYLLA",
  "BLE NDOLE FAtbKtaSOOgaMBOL FEENGleKlcTIlaNIIlaBANGlaFAAlcTlaDANGmcOOlcKUlcTOlaDO-OlaJONGeaDIGI",
  "T ZEROkaONEkaTWOlaHREEkaFOURlaIVEkaSIXlaEVENkaEIGHTkaNINEeaSYLLABLE NDOLE MAtaDO~A640aaCYRILLI",
  "C CAPITAL LETTER ZEMLYAjpSMALjaCAPITAL LETTER DZELOjoSMALjaCAPITAL LETTER REVERSED DZEjvSMALja",
  "CAPITAL LETTER IOTAjnSMALjaCAPITAL LETTER DJERVjoSMALjaCAPITAL LETTER MONOGRAPH UKjvSMALjaCAPI",
  "TAL LETTER BROAD OMEGAjuSMALjaCAPITAL LETTER NEUTRAL YERjuSMALjeCAPITAL LETTER YERU WITH BACKj",
  "#SMALjaCAPITAL LETTER IOTIFIED YATjvSMALjaCAPITAL LETTER REVERSED YUjuSMALjaCAPITAL LETTER IOT",
  "IFIED AjtSMALjaCAPITAL LETTER CLOSED LITTLE YUSj!SMALjeCAPITAL LETTER BLENDEDjuSMALjeCAPITAL L",
  "ETTER IOTIFIED CLOSED LITTLEj,SMALjaCAPITAL LETTER YNjlSMALjaCAPITAL LETTER REVERSED TSEjvSMAL",
  "jbCAPITAL LETTER SOFT DjqSMALjaCAPITAL LETTER SOFT ELjqSMALjaCAPITAL LETTER SOFT EMjqSMALjaCAP",
  "ITAL LETTER MONOCULAR OjuSMALjjCAPITAL LETTER BIjuSMALjjCAPITAL LETTER DOUBLE MOj#SMALjiLETTER",
  " MULTIbaOMBINING CYRILLIC VZMETtaTEN MILLIONS SIGNtoHUNDREDtpTHOUSANaaSLAVONIC ASTERISKaaCOMBI",
  "NING CYRILLIC LETTER UKRAINIAN IE!aI!bY!aU!aHARD SIGN!aYERU!aSOFT SIGN!aOMEGAtbKAVYKtaPAYEROKb",
  "aYRILLIC KAVYKAjaPAYEROKjaCAPITAL LETTER DWEjmSMALjcCAPITAL LETTER DZjnSMALjcCAPITAL LETTER ZH",
  "jnSMALjbCAPITAL LETTER CCHjnSMALjbCAPITAL LETTER DZZjnSMALjaCAPITAL LETTER TE WITH MIDDLE HOOK",
  "j$SMALjaCAPITAL LETTER TWEjmSMALjcCAPITAL LETTER TSjnSMALjbCAPITAL LETTER TSSjnSMALjbCAPITAL L",
  "ETTER TCHjnSMALjbCAPITAL LETTER HWjmSMALjdCAPITAL LETTER SjnSMALjaCAPITAL LETTER DOUBLE OjrSMA",
  "LjcCAPITAL LETTER CROSSEDjsSMALaaMODIFIER LETTER CYRILLIC HARD SIGNzfSOFTaaCOMBINING CYRILLIC ",
  "LETTER EF!aIOTIFIED EaaBAMUM LETTER AnbKnaUnbKnaEEncRnbTAnaOnaNYInbnaLAnbPnaRIIpaEEncLEEneMnaT",
  "AAncNDoaJAEMnbnaSUUnbMnaSHIIoboaHEUXodnaKYEEoaETnaNUAEpaoaJUAEnaYOQnaSHUnaYUQoaAnbNSHnaKEUXndP",
  "naNJEEocTnbPUncWnbPEncFnaRUnbLnaMInbNnaREUXoaAEnaKENncNGKWApaGApbnaSHOnaPUAEnaFUoaOMnaWAnbNnaL",
  "InbPnaLOQnaKOnaMBENncRncMoaAnaTInbKnaMOoaBAAnaTETnaKPAnaTENnaNTUUnaSAMBAnaFAAMAEnaKOVUUpaGHOMg",
  "aCOMBINING MARK KOQNDONvaTUKWENTISgaNJAEMLIgaFULL STOPgaCOLONiaMMAgaSEMICOLONgaQUESTION MARK~A",
  "700aaMODIFIER LETTER CHINESE TONE YIN PING&fANG&cIN SHA&gANG&aIN QU&dANG&bIN R&dANGqaEXTRA-HIG",
  "H DOTTED TONE BARquqqMIDqqLOWqtEXTRA-wjHIGH DOTTED LEFT-STEMq&q!MIDq!LOWq%EXTRA-wtHIGHqxqtMIDq",
  "tLOWqwEXTRA-qeDOT VERTICALuaSLASHuaHORIZONTAL BARqaLOWER RIGHT CORNER ANGLEqaRAISED UP ARROWxg",
  "DOWNxaEXCLAMATION MARKxqINVERTED q!LOWqaSTRESS AND HIGH TONE#fLOWaaLATIN CAPITAL LETTER EGYPTO",
  "LOGICAL ALEFg#SMALgaCAPITAL LETTER EGYPTOLOGICAL AINg!SMALgaCAPITAL LETTER HENGgnSMALgaCAPITAL",
  " LETTER TZglSMALgaCAPITAL LETTER TRESILLOgrSMALgeCAPITAL LETTER CUATRgsSMALgaCAPITAL LETTER CU",
  "ATRILLO WITH COMMAg%SMALgaLETTER SMALL CAPITAL F#aSgaCAPITAL LETTER AAglSMALgaCAPITAL LETTER A",
  "OglSMALgaCAPITAL LETTER AUglSMALgaCAPITAL LETTER AVglSMALgaCAPITAL LETTER AV WITH HORIZONTAL B",
  "ARg(SMALgaCAPITAL LETTER AYglSMALgaCAPITAL LETTER REVERSED C WITH DOTg$SMALgaCAPITAL LETTER K ",
  "WITH STROKEgwSMALghCAPITAL LETTER K WITH DIAGONALg(SMALgqCAPITAL LETTER K WITH STROKE ANDg@SMA",
  "LgaCAPITAL LETTER BROKEN LgrSMALgaCAPITAL LETTER L WITH HIGH STROKEg#SMALgaCAPITAL LETTER O WI",
  "TH LONG STROKE OVERLAYg,SMALgaCAPITAL LETTER O WITH LOOPguSMALgaCAPITAL LETTER OOglSMALgaCAPIT",
  "AL LETTER P WITH STROKE THROUGH DESCENDERg>SMALgaCAPITAL LETTER P WITH FLOURISHgySMALgaCAPITAL",
  " LETTER P WITH SQUIRREL TAILg%SMALgaCAPITAL LETTER Q WITH STROKE THROUGH DESCENDERg>SMALgaCAPI",
  "TAL LETTER Q WITH DIAGONAL STROKEg(SMALgaCAPITAL LETTER R ROTUNDAgsSMALgiCAPITAL LETTER RUMguS",
  "MALgaCAPITAL LETTER V WITH DIAGONAL STROKEg(SMALgaCAPITAL LETTER VYglSMALgaCAPITAL LETTER VISI",
  "GOTHIC ZgvSMALgaCAPITAL LETTER THORN WITH STROKEg!SMALgaCAPITAL LETTER THORN WITH STROKE THROU",
  "GH DESCENDERg]SMALgaCAPITAL LETTER VENDgnSMALgaCAPITAL LETTER ETglSMALgaCAPITAL LETTER ISglSMA",
  "LgaCAPITAL LETTER CONgmSMALaaMODIFIER LETTER USaaLATIN SMALL LETTER DUMtcLtcMtcNtcRgeLETTER SM",
  "ALL CAPITALgcSMALL LETTER TtcgaCAPITAL LETTER INSULAR DgsSMALgaCAPITAL LETTER INSULAR FgsSMALg",
  "aCAPITAL LETTER INSULAR GvjTURNED gzSMALgaCAPITAL LETTER TURNED LgrSMALgaCAPITAL LETTER INSULA",
  "R RgsSMALgaCAPITAL LETTER INSULAR SgsSMALgaCAPITAL LETTER INSULAR TgsSMALabMODIFIER LETTER LOW",
  " CIRCUMFLEX ACCENqaCOLONqbSHORT EQUALS SIGaaLATIN CAPITAL LETTER SALTILLOgrSMALgaCAPITAL LETTE",
  "R TURNED HgaSMALL LETTER L WITH RETROFLEX HOOK AND BELTgbLETTER SINOLOGICAL DOgaCAPITAL LETTER",
  " N WITH DESCENDERgzSMALgbCAPITAL LETTER C WITH BAgtSMAL!aPALATAL HOOKtsHgaCAPITAL LETTER B WIT",
  "H FLOURISHgySMALgaCAPITAL LETTER F WITH STROKEgwSMALgbCAPITAL LETTER VOLAPUK AgtSMALgbCAPITAL ",
  "LETTER VOLAPUK OgtSMALgbCAPITAL LETTER VOLAPUK UgtSMALgbCAPITAL LETTER G WITH OBLIQUE STROKg&S",
  "MALguCAPITAL LETTER Kg&SMALguCAPITAL LETTER Ng&SMALguCAPITAL LETTER Rg&SMALguCAPITAL LETTER Sg",
  "&SMALgaCAPITAL LETTER H WITH HOOKvaREVERSED OPEN EvaSCRIPT GvaL WITH BELTvaSMALL CAPITAL IgaLE",
  "TTER SMALL CAPITAL QgaCAPITAL LETTER TURNED K$aTvaJ WITH CROSSED-TAILvaCHIvaBETAgnSMALgbCAPITA",
  "L LETTER OMEGgoSMALgaCAPITAL LETTER U WITH STROKEgwSMALgaCAPITAL LETTER GLOTTAL AgsSMALgaCAPIT",
  "AL LETTER GLOTTAL IgsSMALgaCAPITAL LETTER GLOTTAL UgsSMALgaCAPITAL LETTER OLD POLISH OgvSMALga",
  "CAPITAL LETTER ANGLICANA WguSMALgaCAPITAL LETTER C WITH PALATAL HOOKvfS WITHvfZ WITH PALATALva",
  "D WITH SHORT STROKE OVERLAYg.SMALg!CAPITAL LETTER Sg.SMAL~A7D0gaCAPITAL LETTER CLOSED INSULAR ",
  "GgzSMAL~A7D3taDOUBLE THORN~A7D5!bWYNgaCAPITAL LETTER MIDDLE SCOTS SgxSMALgcCAPITAL LETTER SIGM",
  "OIDgsSMAL~A7F2aaMODIFIER LETTER CAPITAL CyaFyaQaaLATIN CAPITAL LETTER REVERSED HALF HgySMALgaE",
  "PIGRAPHIC LETTER SIDEWAYS IaaMODIFIER LETTER CAPITAL H WITH STROKEqbSMALL LIGATURE OaaLATIN LE",
  "TTER SMALL CAPITAL TURNED MgaEPIGRAPHIC LETTER REVERSED F*aPyaINVERTED Mza LONGAyaARCHAIC MaaS",
  "YLOTI NAGRI LETTER AuaInaSIGN DVISVARAnaLETTER UuaEuaOnaSIGN HASANTAnaLETTER KOvbHubGvbHnaSIGN",
  " ANUSVARAnaLETTER COvbHubJvbHubTTwbHubDDwbHubTvbHubDvbHubNubPvbHubBvbHubMubRubLubRRubSubHnaVOW",
  "EL SIGN AyaIyaUyaEyaOOnaPOETRY MARK-1za2za3za4naSIGN ALTERNATE HASANTA~A830aaNORTH INDIC FRACT",
  "ION ONE QUARTERzaHALFvaTHREE QUARTERSvaONE SIXTEENTHzcEIGHvaTHREE SIXTEENTHSmaQUARTER MARKmhPL",
  "ACEHOLDmfRUPEEmfQUANTITY~A840aaPHAGS-PA LETTER KArbHqbGqcNqbCrbHqbJqbNYqbTrbHqbDqbNqbPrbHqbBqb",
  "MqbTSsbHqbDZqbWqbZHrbqbSMALL qbYqbRqbLqbSHrbqbHqbqaIqaUqaEqaOqaQAqbXqbFqbGGqaEEjaSUBJOINED LET",
  "TER WA!bYjbLETTER TTsbHqbDDqbNNqbALTERNATE YqbVOICELESS SHvcD qbASPIRATED FjbSUBJOINED LETTER ",
  "RlmPERFIXjaLETTER CANDRABINDUjaSINGLE HEAD MARKjmDOUBjaMARK SHADoeDOUBLE ~A880aaSAURASHTRA SIG",
  "N ANUSVARAqbVISARGlbLETTER taAsaItaIsaUtaUsaVOCALIC R#aR!aL#aLsaEtaEsaAIsaOtaOsaAUsaKAtbHsbGtb",
  "HsbNGsbCtbHsbJtbHsbNYsbTTubHsbDDubHsbNNsbTtbHsbDtbHsbNsbPtbHsbBtbHsbMsbYsbRsbLsbVsbSHtbStbsbHs",
  "bLLlaCONSONANT SIGN HAARUlaVOWEL SIGN AAwaIxaIwaUxaUwaVOCALIC R(aR&aL(aLwaExaEwaAIwaOxaOwaAUla",
  "SIGN VIRAMAqaCANDRABINDU~A8CElaDANDAmeOUBLE DmaIGIT ZEROraONEraTWOsaHREEraFOURsaIVEraSIXsaEVEN",
  "raEIGHTraNINE~A8E0aaCOMBINING DEVANAGARI DIGIT ZERO#aONE#aTWO$aHREE#aFOUR$aIVE#aSIX$aEVEN#aEIG",
  "HT#aNINEvaLETTER A$aU$aKA$bN$bP$bR$aVIvaSIGN AVAGRAHAaaDEVANAGARI SIGN SPACING CANDRABINDUqaCA",
  "NDRABINDU VIRAMAqsDOUBLE qaCANDRABINDU TWO%aHREE$aAVAGRAHAqbPUSHPIKlaGAP FILLERlaCARETlaHEADST",
  "ROKElaSIGN SIDDHAMlbJAIN OlaLETTER AYldVOWEL SIGNaaKAYAH LI DIGIT ZEROpaONEpaTWOqaHREEpaFOURqa",
  "IVEpaSIXqaEVENpaEIGHTpaNINEjaLETTER KArbHqbGqcNqbSrbHqbZqbNYqbTqcHqbNqbPrbHqbMqbDqbBqbRqbYqbLq",
  "bWqbTHqcqbVqbCqbqaOEqaIqaOOjaVOWEL UEpbpaUpaEEpaOjaTONE PLOPHUoaCALYAta PLOPHUjaSIGN CWIoaSHYA",
  "abREJANG LETTER KobGocNobTobDobNobPobBobMobCobJobNYobSobRobLobYobWobHobMBobNGGpbDpbYJobhaVOWEL",
  " SIGN IsaUsaEsaAIsaOsaAUsbEtaAhaCONSONANT SIGN NGxawaRwaHhaVIRAMA~A95FhaSECTION MARKaaHANGUL C",
  "HOSEONG TIKEUT-MIEUMxaPIEUPxaSIOSxaCIEUCqaRIEUL-KIYEOKwgSSANGwaTIKEUTwgSSANGwaMIEUMwaPIEUPwfSS",
  "ANGwfKAPYEOUNwaSIOSwaCIEUCwaKHIEUKHqaMIEUM-KIYEOKwaTIKEUTwaSIOSqaPIEUP-SIOS-THIEUTHwbKHIEUKwbH",
  "IEUqaSSANGSIOS-PIEUPqaIEUNG-RIEULwaHIEUHqgSSANGCIEUCvbTHIEUTqbPHIEUPH-HIEUqaHIEUH-SIOSqaSSANGY",
  "EORINHIEUH~A980aaJAVANESE SIGN PANYANGGAoaCECAKoaLAYARoaWIGNYANjaLETTER AqaI KAWIraraIqaUqaPA ",
  "CEREKqaNGA LELETza RASWADIqaEqaAIqaOqaKAsa SASAKtaMURDAqbGsa MURDAqbNGqbCsa MURDAqbJqbNYA MURD",
  "qbJA MAHAPRANqbNYqbTTta MAHAPRANAqbDDta MAHAPRANAqbNA MURDqbTsa MURDAqcsa MAHAPRANAqcqbPsa MUR",
  "DAqbBsa MURDAqbMqbYqbRsa AGUNGqaLAqbWqbSA MURDubAHAPRANsaqbHjaSIGN CECAK TELUjaVOWEL SIGN TARU",
  "NGvcOLOuaWULUya MELIKuaSUKUya MENDUTuaTALINGuaDIRGA MUREuaPEPETjcCONSONANT SIGN KERyaPENGKALya",
  "CAKRAjaPANGKONjbLEFT RERENGGAjlRIGHjaPADA ANDAPoaMADYAoaLUHURoaWINDUoaPANGKAToaLINGSApaUNGSIoa",
  "ADEGsa ADEGoaPISELEHjmTURNED ~A9CFjaPANGRANGKEPjaDIGIT ZEROpaONEpaTWOqaHREEpaFOURqaIVEpaSIXqaE",
  "VENpaEIGHTpaNINE~A9DEjaPADA TIRTA TUMETESoaISEN-ISENaaMYANMAR LETTER SHAN GHAucCucJubNNubBHiaS",
  "IGN SHAN SAWiaMODIFIER LETTER SHAN REDUPLICATIONiaLETTER TAI LAING NYAzbFzbG!bHzbJ!bHzbDD#bHzb",
  "NNiaTAI LAING DIGIT ZEROyaONEyaTWOzaHREEyaFOURzaIVEyaSIXzaEVENyaEIGHTyaNINEiaLETTER TAI LAING ",
  "LLAzbD!bHzbB!bH~AA00abCHAM LETTER maImaUmaEmaAImaOmaKAnbHmbGnbHmaNGUEoaAmbCHobHmbJnbHmaNHUEoaA",
  "obJmbTnbHmbDnbHmaNUEnaAmbDDmbPnbPnbHmbBnbHmaMUEnaAmbBBmbYmbRmbLmbVmbSSnbmbHfbVOWEL SIGN AqaIra",
  "IqbEqaUqaOEraqaAIraUqaUEfaCONSONANT SIGN YAubRubLubW~AA40faLETTER FINAL KsaGsbNfjCONSONANT SIG",
  "NfaLETTER FINAL CHsaTsaNsaPsaYsaRsaLsaSSfaCONSONANT SIGN FINAL M!aH~AA50faDIGIT ZEROlaONElaTWO",
  "maHREElaFOURmaIVElaSIXmaEVENlaEIGHTlaNINE~AA5CfaPUNCTUATION SPIRALraDANDAseOUBLE DriTRIPabMYAN",
  "MAR LETTER KHAMTI GwbCxbHwbJxbHwbNYwbTTybHwbDDybHxcwbNwbSwbHxbHwbFiaMODIFIER LETTER KHAMTI RED",
  "UPLICATIONiaLETTER KHAMTI XAwbZwbRjaOGOGRAM KHAMTI OAYyaQNyaHMiaSYMBOL AITON EXCLAMATIONvaONEv",
  "aTWOiaLETTER AITON RAiaSIGN PAO KAREN TONEnaTAI LAING TONE-2$a5iaLETTER SHWE PALAUNG CHA$cSaaT",
  "AI VIET LETTER LOW KOqdHIGHqbLOW KHqeHIGHqcLOW KHqfHIGHqbLOW GqdHIGHqcLOW NqeHIGHqbLOW CqdHIGH",
  "qbLOW CHqeHIGHqbLOW SqdHIGHqbLOW NYqeHIGHqbLOW DqdHIGHqbLOW TqdHIGHqbLOW THqeHIGHqbLOW NqdHIGH",
  "qbLOW BqdHIGHqbLOW PqdHIGHqbLOW PHqeHIGHqbLOW FqdHIGHqbLOW MqdHIGHqbLOW YqdHIGHqbLOW RqdHIGHqb",
  "LOW LqdHIGHqbLOW VqdHIGHqbLOW HqdHIGHqbLOW qcHIGHjaMAI KANGjaVOWEL AApaIpaUEqapaEpaOjaMAI KHIT",
  "jaVOWEL IApbUEqbpaAUEqaYqaNqaMjaTONE MAI EKsaNUENGsaTHOsaSONG~AADBjaSYMBOL KONqaNUENGqaSAMqaHO",
  " HOIqcKOI KaaMEETEI MAYEK LETTER EuaOuaCHAubNYubTTwbHubDDwbHubNNubSHvbSnaVOWEL SIGN IIyaUUyaAA",
  "IzaUzbAnaCHEIKHANnaAHANG KHUDAMoaNJInaSYLLABLE REPETITION MARKnqWORDnaVOWEL SIGN VISARGAobIRAM",
  "~AB01aaETHIOPIC SYLLABLE TTHUvaIvaAAvaEEwavaO~AB09saDDHUvaIvaAAvaEEwavaO~AB11taZUuaIuaAAuaEEva",
  "uaO~AB20saCCHHAwaUwaIwaAAwaEExawaO~AB28saBBAuaUuaIuaAAuaEEvauaO~AB30aaLATIN SMALL LETTER BARRE",
  "D ALPHAtbA REVERSED-SCHWtaBLACKLETTER EucARREDtaE WITH FLOURISHtaLENIS FtaSCRIPT G WITH CROSSE",
  "D-TAILtaL WITH INVERTED LAZY S!aDOUBLE MIDDLE TILDE!aMIDDLE RINGtaM WITH CROSSED-TAILtsNtsENGt",
  "aBLACKLETTER O)a WITH STROKEtoOPENtbINVERTED OtbTURNED OE WITH STROK+gHORIZONTAL #a OPEN-O+a W",
  "ITH STROKEtaSTIRRUP RgaLETTER SMALL CAPITAL R WITH RIGHT LEGgaSMALL LETTER R WITHOUT HANDLEtaD",
  "OUBLE RtaR WITH CROSSED-TAILttDOUBLE taSCRIPT R#a WITH RINGtaBASELINE ESHtaU WITH SHORT RIGHT ",
  "LEGvuBAR uaItcTURNED taU WITH LEFT HOOKtaCHIwa WITH LOW RIGHT RING)aLEFT SERIFtaX WITH LOW RIG",
  "HT RING$bNG LEFT LE<a AND LOW RIGHT RING>aWITH SERIFtaY WITH SHORT RIGHT LEGaaMODIFIER BREVE W",
  "ITH INVERTED BREVEjaLETTER SMALL HENGwaL WITH INVERTED LAZY S%aMIDDLE TILDEwaU WITH LEFT HOOKa",
  "aLATIN SMALL LETTER SAKHA YATtaIOTIFIED EtbOPEN OtaUOtaINVERTED ALPHAabGREEK LETTER SMALL CAPI",
  "TAL OMEGaaLATIN SMALL LETTER DZ DIGRAPH WITH RETROFLEX HOOKt$TSuaURNED R WITH MIDDLE TILDEaaMO",
  "DIFIER LETTER SMALL TURNED WqaLEFT TACKqgRIGH~AB70aaCHEROKEE SMALL LETTER AwaEwaIwaOwaUwaVwaGA",
  "wbKwaGExaIxaOxaUxaVwaHAxaExaIxaOxaUxaVwaLAxaExaIxaOxaUxaVwaMAxaExaIxaOxaUwaNAwcHwaNAHxaExaIxaO",
  "xaUxaVwaQUAyaEyaIyaOyaUyaVwaSAxaxaExaIxaOxaUxaVwaDAwbTwaDEwbTwaDIwbTwaDOxaUxaVxaLAwcTyaEyaIyaO",
  "yaUyaVxaSAyaEyaIyaOyaUyaVwaWAxaExaIxaOxaUxaVwaYAaaMEETEI MAYEK LETTER KOKuaSAMuaLAIuaMITuaPAub",
  "NuaCHILucTuaKHOUucNGucTHuaWAIuaYANGuaHUKuaUNuaIuaPHAMuaATIYAuaGOKuaJHAMuaRAIuaBAuaJILucDuaGHOU",
  "udDuaBHAMubKOK LONSUuhLAIuhMITuhPAuiNuhTILuhNGOUuhInaVOWEL SIGN ONAPydIydAydYEydSOUyeydCHEIyaN",
  "UNGnaCHEIKHEInaLUM IYEKnfAPUN~ABF0naDIGIT ZEROtaONEtaTWOuaHREEtaFOURuaIVEtaSIXuaEVENtaEIGHTtaN",
  "INE~D7B0aaHANGUL JUNGSEONG O-YEOtaO-IraYO-AvaEuaEOrcU-YtaI-IraYU-AEuaOraEU-AuaEOvauaOrcI-YAvaE",
  "uaEOvataO-ItaYOuaUtaIraARAEA-AxaE~D7CBiaONGSEONG NIEUN-RIEULxaCHIEUCHraSSANGTIKEUT$a-PIEUPrmya",
  "SIOS$a-KIYEOKyaCIEUCzaHIEUCHybTHIEUTraRIEUL-SSANGKIYEOKxaKIYEOK-HIEUHrbSSANGRIEUL-KHIEUKrbRIEU",
  "L-MIEUM-HIEUxaPIEUP-TIKEUT%aPHIEUPHxaYESIEUNGzaORINHIEUH-HIEUHraKAPYEOUNRIEULraMIEUM-NIEUNxfSS",
  "ANGraSSANGMIEUMraMIEUM-PIEUP-SIOSxaCIEUCraPIEUP-TIKEUTxaRIEUL-PHIEUPHxaMIEUMraSSANGPIEUPraPIEU",
  "P-SIOS-TIKEUTxaCIEUCyaHIEUCHraSIOS-MIEUMwaKAPYEOUNPIEUPsaSANGSIOS-KIYEOK#aTIKEUTsaIOS-PANSIOSw",
  "aCIEUCxaHIEUCHwbTHIEUTwbHIEUraPANSIOS-PIEUPzfKAPYEOUNraYESIEUNG-MIEUM!aHIEUHraCIEUC-PIEUPxfSSA",
  "NGraSSANGCIEUCraPHIEUPH-SIOSzaTHIEUTH~FB00aaLATIN SMALL LIGATURE FFwaIwaLwaFIxaLvaLONG S TvbS~",
  "FB13aaARMENIAN SMALL LIGATURE MEN NOW$aECH$aINIyaVEW NOWyaMEN XEH~FB1DaaHEBREW LETTER YOD WITH",
  " HIRIQhaPOINT JUDEO-SPANISH VARIKAhaLIGATURE YIDDISH YOD YOD PATAHiaETTER ALTERNATIVE AYINoaWI",
  "DE ALEFtaDALETtaHEtaKAFtaLAMEDtaFINAL MEMtaRESHtaTAVoaALTERNATIVE PLUS SIGNoaSHIN WITH SHIN DO",
  "TzgygDAGESH AND SH.goaALEF WITH PATAHyaQAMATSyaMAPIQoaBET WITH DAGESHomGIMELomDALEToaHE WITH M",
  "APIQoaVAV WITH DAGESHomZAYIN~FB38omTETomYODomFINAL KAFopomLAMED~FB3EomMEM~FB40omNUNomSAMEKH~FB",
  "43omFINAL PEoo~FB46omTSADIomQOFomRESHomSHINomTAVoaVAV WITH HOLAMoaBET WITH RAFEokKAFokPEiaIGAT",
  "URE ALEF LAMEDaaARABIC LETTER ALEF WASLA ISOLATED FORMzfFINALofBEEH ISOLATEDtfFINALthINITItiME",
  "DofPEH ISOLATEDsfFINALshINITIsiMEDofBEHEH ISOLATEDufFINALuhINITIuiMEDofTTEHEH ISOLATEDvfFINALv",
  "hINITIviMEDpfEHEH ISOLATEDufFINALuhINITIuiMEDpfTEH ISOLATEDtfFINALthINITItiMEDofVEH ISOLATEDsf",
  "FINALshINITIsiMEDofPEHEH ISOLATEDufFINALuhINITIuiMEDofDYEH ISOLATEDtfFINALthINITItiMEDofNYEH I",
  "SOLATEDtfFINALthINITItiMEDofTCHEH ISOLATEDufFINALuhINITIuiMEDtfEH ISOLATEDwfFINALwhINITIwiMEDo",
  "fDDAHAL ISOLATEDvfFINALpfAHAL ISOLATEDufFINALpfUL ISOLATEDsfFINALpfDAL ISOLATEDtfFINALofJEH IS",
  "OLATEDsfFINALofRREH ISOLATEDtfFINALofKEHEH ISOLATEDufFINALuhINITIuiMEDofGAF ISOLATEDsfFINALshI",
  "NITIsiMEDpfUEH ISOLATEDtfFINALthINITItiMEDofNGOEH ISOLATEDufFINALuhINITIuiMEDpfOON GHUNNA ISOL",
  "ATED!fFINALofRNOON ISOLATEDufFINALuhINITIuiMEDofHEH WITH YEH ABOVE ISOLATED*fFINALsfGOAL ISOLA",
  "TEDxfFINALxhINITIxiMEDsfDOACHASHMEE ISOLATED&fFINAL&hINITI&iMEDofYEH BARREE ISOLATEDzfFINALzfW",
  "ITH HAMZA ABOVE ISOLATED@fFINALhaSYMBOL DOT ABOVEsaBELOWoaTWO DOTS ABOVExaBELOWpaHREE DOTS ABO",
  "VEzaBELOWzaPOINTING DOWNWARDS ABOVE]aBELOWoaFOUR DOTS ABOVEyaBELOWogDOUBLE VERTICAL BARoaTWO D",
  "OTS VERTICALLY ABOVE+aBELOWoaRINGoaSMALL TAH ABOVEyaBELOWoaWASLA ABOVE~FBD3haLETTER NG ISOLATE",
  "D FORMrfFINALrhINITIriMEDofU ISOLATEDqfFINALofOE ISOLATEDrfFINALofYU ISOLATEDrfFINALofU WITH H",
  "AMZA ABOVE ISOLATEDoqrfFINALofKIRGHIZ OE ISOLATEDzfFINALwfYU ISOLATEDzfFINALofE ISOLATEDqfFINA",
  "LqhINITIqiMEDoiUIGHUR KAZAKH KIRGHIZ ALEF MAKSURA INIT|iA MEDifIGATURE YEH WITH HAMZA ABOVE WI",
  "TH ALEF ISOLATED|fFINAL[fE ISOLATED^fFINAL@fWAW ISOLATED_fFINAL@fU ISOLATED]fFINAL@fOE ISOLATE",
  "D^fFINAL@fYU ISOLATED^fFINAL@fE ISOLATED]fFINAL]hINITIqfUIGHUR KIRGHIZ YEH WITH HAMZA ABOVE WI",
  "TH ALEF MAKSURA ISOLATED|fBOVE WITH ALEF MAKSURA FINAL|hBOVE WITH ALEF MAKSURA INITIifETTER FA",
  "RSI YEH ISOLATEDyfFINALyhINITIyiMEDifIGATURE YEH WITH HAMZA ABOVE WITH JEEM ISOLATED@oHAH@oMEE",
  "M@oALEF MAKSURA@oYEHqoBEH WITH JEEMzoHAHzrKzoMEEMzoALEF MAKSURAzoYEHqoTEH WITH JEEMzoHAHzrKzoM",
  "EEMzoALEF MAKSURAzoYEHroHEH WITH JEEM!rM!oALEF MAKSURA!oYEHqpJEEM WITH HA!oMEEMqrHAH WITH JzrM",
  "qrKHAH WITH J!oHAH!oMEEMqrSEEN WITH J!oHAH!rK!oMEEMroAD WITH HAHzoMEEMqrDAD WITH JzoHAHzrKzoME",
  "EMqoTAH WITH HAHzoMEEMq!ZqrAIN WITH JzrMqrGHAIN WITH J#rMqrFEH WITH JzoHAHzrKzoMEEMzoALEF MAKS",
  "URAzoYEHqpQAF WITH HAzoMEEMzoALEF MAKSURAzoYEHqoKAF WITH ALEFzoJEEMzoHAHzrKzoLAMzpMEEzoALEF MA",
  "KSURAzoYEHqoLAM WITH JEEMzoHAHzrKzoMEEMzoALEF MAKSURAzoYEHqoMEEM WITH JEEM!oHAH!rK!oMEEM!oALEF",
  " MAKSURA!oYEHqoNOON WITH JEEM!oHAH!rK!oMEEM!oALEF MAKSURA!oYEHqoHEH WITH JEEMzrMzoALEF MAKSURA",
  "zoYEHqoYEH WITH JEEMzoHAHzrKzoMEEMzoALEF MAKSURAzoYEHqoTHAL WITH SUPERSCRIPT ALEFq.REHq.ALEF M",
  "AKSURAqoSHADDA WITH DAMMATAN$sKASR$oFATHA$pDAMM$pKASR$oSUPERSCRIPT ALEFqfYEH WITH HAMZA ABOVE ",
  "WITH REH FINAL@lZAIN@lMEEM@lNOON@lALEF MAKSURA@lYEHqnBEH WITH RzlZAINzlMEEMzlNOONzlALEF MAKSUR",
  "AzlYEHqnTEH WITH RzlZAINzlMEEMzlNOONzlALEF MAKSURAzlYEHrnHEH WITH R!lZAIN!lMEEM!lNOON!lALEF MA",
  "KSURA!lYEHqlFEH WITH ALEF MAKSURAzlYEHqlQAF WITH ALEF MAKSURAzlYEHqlKAF WITH ALEFzlLAMzmMEEzlA",
  "LEF MAKSURAzlYEHqlLAM WITH MEEMzlALEF MAKSURAzlYEHqlMEEM WITH ALEF!lMEEMqlNOON WITH REH!lZAIN!",
  "lMEEM!lNOON!lALEF MAKSURA!lYEHqlALEF MAKSURA WITH SUPERSCRIPT ALEFqlYEH WITH REHzlZAINzlMEEMzl",
  "NOONzlALEF MAKSURAzlYEHzhHAMZA ABOVE WITH JEEM INITI@nHAH@qK@nMEEM@nHEHqnBEH WITH JEEMznHAHzqK",
  "znMEEMznHEHqnTEH WITH JEEMznHAHzqKznMEEMznHEHrnHEH WITH MEEMqnJEEM WITH HAH!nMEEMqqHAH WITH Jz",
  "qMqqKHAH WITH J!qMqqSEEN WITH J!nHAH!qK!nMEEMrnAD WITH HAHzqKznMEEMqqDAD WITH JznHAHzqKznMEEMq",
  "nTAH WITH HAHqnZAH WITH MEEMqqAIN WITH JzqMqqGHAIN WITH J#qMqqFEH WITH JznHAHzqKznMEEMqnQAF WI",
  "TH HAHznMEEMqqKAF WITH JznHAHzqKznLAMzoMEEqqLAM WITH JznHAHzqKznMEEMznHEHqnMEEM WITH JEEM!nHAH",
  "!qK!nMEEMqqNOON WITH J!nHAH!qK!nMEEM!nHEHqnHEH WITH JEEMzqMznSUPERSCRIPT ALEFqnYEH WITH JEEMzn",
  "HAHzqKznMEEMznHEH!iAMZA ABOVE WITH MEEM MED@mHEHqmBEH WITH MEEMzmHEHqmTEH WITH MEEMzmHEHrmHEH ",
  "WITH MEEM!mHEHqmSEEN WITH MEEM!mHEHrmHEEN WITH MEEM#mHEHqmKAF WITH LAMznMEEqwLAMqwNOON!mHEHqmY",
  "EH WITH MEEMzmHEHqmSHADDA WITH FATHA$nDAMM$nKASRqfTAH WITH ALEF MAKSURA ISOLATEDzoYEHqoAIN WIT",
  "H ALEF MAKSURAzoYEHqoGHAIN WITH ALEF MAKSURA#oYEHqoSEEN WITH ALEF MAKSURA!oYEHroHEEN WITH ALEF",
  " MAKSURA#oYEHqoHAH WITH ALEF MAKSURAzoYEHqoJEEM WITH ALEF MAKSURA!oYEHqoKHAH WITH ALEF MAKSURA",
  "!oYEHqoSAD WITH ALEF MAKSURAzoYEHqoDAD WITH ALEF MAKSURAzoYEHqoSHEEN WITH JEEM#oHAH#rK#oMEEM#o",
  "REHr!rxADqzDqfTAH WITH ALEF MAKSURA FINALzlYEHqlAIN WITH ALEF MAKSURAzlYEHqlGHAIN WITH ALEF MA",
  "KSURA#lYEHqlSEEN WITH ALEF MAKSURA!lYEHrlHEEN WITH ALEF MAKSURA#lYEHqlHAH WITH ALEF MAKSURAzlY",
  "EHqlJEEM WITH ALEF MAKSURA!lYEHqlKHAH WITH ALEF MAKSURA!lYEHqlSAD WITH ALEF MAKSURAzlYEHqlDAD ",
  "WITH ALEF MAKSURAzlYEHqlSHEEN WITH JEEM#lHAH#oK#lMEEM#lREHrxruADqwDqhSHEEN WITH JEEM INITI#nHA",
  "H#qK#nMEEMrnEEN WITH HEHrzHqnTAH WITH MEEMqiSEEN WITH JEEM MED!mHAH!pKrmHEEN WITH JEEM#mHAH#pK",
  "qmTAH WITH MEEMqyZqhALEF WITH FATHATAN FIN,fISOLATEDaaORNATE LEFT PARENTHESIShnRIGHaaARABIC LI",
  "GATURE RAHIMAHU ALLAAHsbDI ALLAAHU AN)aAA)aUM+aAA*bNNqaSALLALLAAHU ALAYHI WA-AALIHqaALAYHI AS-",
  "SALAAMwkMxkAAwj AS-SALAATU WqaQUDDISA SIRRAHqaSALLALLAHU ALAYHI WAAALIHEE WA-SALLAMqcALAYHAA A",
  "S-SALAqaTABAARAKA WA-TAAALAAqaRAHIMAHUM ALLAAHqaTEH WITH JEEM WITH MEEM INITIAL FORMzhHAH WITH",
  " JEEM FIN<hINITI+qMz!KzqMEEM WITH J,nHAH,qKqhJEEM WITH MEEM WITH HAH FIN>hINITIqhHAH WITH MEEM",
  " WITH YEH FIN,lALEF MAKSURAqhSEEN WITH HAH WITH JEEM INITI!nJEEM WITH HAH.hALEF MAKSURA FIN!lM",
  "EEM WITH HAH>hINITI.nJEEM.hMEEM FIN?hINITIrhAD WITH HAH WITH HAH FIN;hINITIzhMEEM WITH MEEM FI",
  "NrvHEEN WITH HAH?hINITI#hJEEM WITH YEH FIN#mMEEM WITH KHA@hINITI:hMEEM FIN@hINITIqhDAD WITH HA",
  "H WITH ALEF MAKSURA FINzlKHAH WITH MEEM>hINITIqhTAH WITH MEEM WITH HAH FIN<hINITI,nMEEM,hYEH F",
  "INqlAIN WITH JEEM WITH MEEMzyM>hINITI,hALEF MAKSURA FINqlGHAIN WITH MEEM WITH MEEM:lYEH:lALEF ",
  "MAKSURAqlFEH WITH KHAH WITH MEEM>hINITIqhQAF WITH MEEM WITH HAH FIN,lMEEMqvLAM WITH HAH+lYEH+l",
  "ALEF MAKSURAzhJEEM WITH JEEM INITI>hFINzoKHAH WITH M>hINITIzhMEEM WITH HAH FIN<hINITIqnMEEM WI",
  "TH HAH WITH JEEM,qM,hYEH FIN!hJEEM WITH HAH INITI.nMEEM!qKHAH WITH J.qM~FD92!nJEEM WITH KHAHqn",
  "HEH WITH MEEM WITH JEEM,qMqxNOON WITH HAH,hALEF MAKSURA FIN!lJEEM WITH MEEM?hINITI.hALEF MAKSU",
  "RA FIN!lMEEM WITH YEH.lALEF MAKSURAqlYEH WITH MEEM WITH MEEM>hINITIqhBEH WITH KHAH WITH YEH FI",
  "NquTEH WITH JEEM,lALEF MAKSURAzlKHAH WITH YEH,lALEF MAKSURAzlMEEM WITH YEH,lALEF MAKSURAqlJEEM",
  " WITH MEEM WITH YEH!lHAH WITH ALEF MAKSURA!%MEEMq%SEEN WITH KHAHrlAD WITH HAH WITH YEHr%HEENq%",
  "DADquLAM WITH JEEMzxMquYEH WITH HAHzuJEEMzxMq&MEEMq&QAFquNOON WITH HAHqhQAF WITH MEEM WITH HAH",
  " INITIqnLAM WITH HAH WITH MEEMqhAIN WITH MEEM WITH YEH FINq&KAFqhNOON WITH JEEM WITH HAH INITI",
  "qhMEEM WITH KHAH WITH YEH FINqhLAM WITH JEEM WITH MEEM INITIqhKAF WITH MEEM WITH MEEM FINqyLAM",
  " WITH JqlNOON WITH JEEM WITH HAHqmJEEM WITH HAH WITH YEquHAH WITH JEEMq&MEEMqxFEH WITH MquBEH ",
  "WITH HAHqhKAF WITH MEEM WITH MEEM INITIq!AIN WITH Jq!SAD WITH MrhEEN WITH KHAH WITH YEH FINquN",
  "OON WITH JEEM~FDCFqaSALAAMUHU ALAYNAA~FDF0taLA USED AS KORANIC STOP SIGN ISOLATED FORMq@QAqoAL",
  "LAHroKBARqoMOHAMMADqoSALAMqoRASOULqoALAYHEqoWASALLAMqoSALLAvbLLAHOU ALAYHE WASALLAqaJALLAJALAL",
  "OUHOUaaRIAL SIGNaaARABIC LIGATURE BISMILLAH AR-RAHMAN AR-RAHEEMqaSUBHAANAHU WA TAAALAAqaAZZA W",
  "A JALLaaVARIATION SELECTOR-1ta2ta3ta4ta5ta6ta7ta8ta9ta10ua1ua2ua3ua4ua5ua6aaPRESENTATION FORM ",
  "FOR VERTICAL COMMA(fIDEOGRAPHIC [aFULL STOP(aCOLON(fSEMI(aEXCLAMATION MARK(jQUES(aLEFT WHITE L",
  "ENTICULAR BRACKET(cRIGHT WHITE LENTICULAR BRAKC(aHORIZONTAL ELLIPSIS~FE20aaCOMBINING LIGATURE ",
  "LEFT HALFtgRIGHkgDOUBLE TILDE LEFxgRIGHkgMACRON LEFrgRIGHkaCONJOINING MACRONkaLIGATURE LEFT HA",
  "LF BELOWtmRIGHkmTILDE LEFqmRIGHkmMACRON LEFrmRIGHkgCONJOINING MACRONlaYRILLIC TITLO LEFT HALFz",
  "gRIGHaaPRESENTATION FORM FOR VERTICAL TWO DOT LEADER(aEM DASH)fN(aLOW LINE(iWAVY (aLEFT PARENT",
  "HESIS(nRIGH(aLEFT CURLY BRACKET(pRIGH(iLEFT TORTOISE SHELL(yRIGH(iLEFT BLACK LENTICULAR(!RIGH(",
  "iLEFT DOUBLE ANGLE(wRIGH(oLEFT(pRIGH(iLEFT CORNER(qRIGH(pLEFT WHITE(wRIGHabSESAME DOakWHITE ab",
  "PRESENTATION FORM FOR VERTICAL LEFT SQUARE BRACKE(qRIGHaaDASHED OVERLINEajCENTRELINEajWAVYanDO",
  "UBLE beASHED LOW ajCENTRELINEajWAVYaaSMALL COMMAgfIDEOGRAPHIC gaFULL STOP~FE54gaSEMICOLONgfgaQ",
  "UESTION MARKgjEXCLAMAhaM DASHgaLEFT PARENTHESISgnRIGHgaLEFT CURLY BRACKETgpRIGHgiLEFT TORTOISE",
  " SHELLgyRIGHgaNUMBER SIGNgaAMPERSANDhaSTERISKgaPLUS SIGNgaHYPHEN-MINUSgaLESS-THAN SIGNgkGREATE",
  "RgfEQUALS~FE68gaREVERSE SOLIDUSgaDOLLAR SIGNgfPERCENTgaCOMMERCIAL AT~FE70aaARABIC FATHATAN ISO",
  "LATED FORMhaTATWEEL WITH FATHATAN ABOVEhaDAMMATAN ISOLATED FORMhaTAIL FRAGMENThaKASRATAN ISOLA",
  "TED FORM~FE76hoFATHAnfMEDIALhfDAMMA ISOLATEDnfMEDIALhfKASRA ISOLATEDnfMEDIALhfSHADDA ISOLATEDo",
  "fMEDIALifUKUN ISOLATEDnfMEDIALhfLETTER HAMZA ISOLATEDooALEF WITH MADDA ABOVE.fFINALyfHAMZA ABO",
  "VE ISOLATED.fFINALofWAW WITH HAMZA ABOVE ISOLATED,fFINALofALEF WITH HAMZA BELOW ISOLATED.fFINA",
  "LofYEH WITH HAMZA ABOVE ISOLATED,fFINAL,hINITI,iMEDofALEF ISOLATEDtfFINALofBEH ISOLATEDsfFINAL",
  "shINITIsiMEDofTEH MARBUTA ISOLATED!fFINALsfISOLATEDsfFINALshINITIsiMEDpfHEH ISOLATEDtfFINALthI",
  "NITItiMEDofJEEM ISOLATEDtfFINALthINITItiMEDofHAH ISOLATEDsfFINALshINITIsiMEDofKHAH ISOLATEDtfF",
  "INALthINITItiMEDofDAL ISOLATEDsfFINALofTHAL ISOLATEDtfFINALofREH ISOLATEDsfFINALofZAIN ISOLATE",
  "DtfFINALofSEEN ISOLATEDtfFINALthINITItiMEDpfHEEN ISOLATEDufFINALuhINITIuiMEDpfAD ISOLATEDsfFIN",
  "ALshINITIsiMEDofDAD ISOLATEDsfFINALshINITIsiMEDofTAH ISOLATEDsfFINALshINITIsiMEDofZAH ISOLATED",
  "sfFINALshINITIsiMEDofAIN ISOLATEDsfFINALshINITIsiMEDofGHAIN ISOLATEDufFINALuhINITIuiMEDofFEH I",
  "SOLATEDsfFINALshINITIsiMEDofQAF ISOLATEDsfFINALshINITIsiMEDofKAF ISOLATEDsfFINALshINITIsiMEDof",
  "LAM ISOLATEDsfFINALshINITIsiMEDofMEEM ISOLATEDtfFINALthINITItiMEDofNOON ISOLATEDtfFINALthINITI",
  "tiMEDofHEH ISOLATEDsfFINALshINITIsiMEDofWAW ISOLATEDsfFINALofALEF MAKSURA ISOLATED#fFINALofYEH",
  " ISOLATEDsfFINALshINITIsiMEDifIGATURE LAM WITH ALEF WITH MADDA ABOVE ISOLATED|fFINAL,fHAMZA AB",
  "OVE ISOLATED|fFINAL?fBELOW ISOLATED|fFINAL&fISOLATED&fFINAL~FEFFaaZERO WIDTH NO-BREAK SPACE~FF",
  "01aaFULLWIDTH EXCLAMATION MARKkkQUOTkaNUMBER SIGNkgDOLLAkfPERCENTkaAMPERSANDlaPOSTROPHEkaLEFT ",
  "PARENTHESISknRIGHkaASTERISKkaPLUS SIGNkaCOMMAkaHYPHEN-MINUSkaFULL STOPkaSOLIDUSkaDIGIT ZEROqaO",
  "NEqaTWOraHREEqaFOURraIVEqaSIXraEVENqaEIGHTqaNINEkaCOLONkfSEMIkbLESS-THAN SIGkfEQUALSkfGREATER-",
  "THANkaQUESTION MARKkaCOMMERCIAL ATkaLATIN CAPITAL LETTER A(aB(aC(aD(aE(aF(aG(aH(aI(aJ(aK(aL(aM",
  "(aN(aO(aP(aQ(aR(aS(aT(aU(aV(aW(aX(aY(aZlaEFT SQUARE BRACKETkaREVERSE SOLIDUSlaIGHT SQUARE BRAC",
  "KETkbCIRCUMFLEX ACCENkaLOW LINEkaGRAVE ACCENTkaLATIN SMALL LETTER A%aB%aC%aD%aE%aF%aG%aH%aI%aJ",
  "%aK%aL%aM%aN%aO%aP%aQ%aR%aS%aT%aU%aV%aW%aX%aY%aZlaEFT CURLY BRACKETkaVERTICAL LINEkaRIGHT CURL",
  "Y BRACKETkaTILDEkaLEFT WHITE PARENTHESISktRIGHaaHALFWIDTH IDEOGRAPHIC FULL STOPkaLEFT CORNER B",
  "RACKETkqRIGHkaIDEOGRAPHIC COMMAkaKATAKANA MIDDLE DOTtaLETTER WO!aSMALL A)aI)aU)aE)aO)aYA*aU*aO",
  ")aTUsa-HIRAGANA PROLONGED SOUND MARKsa LETTER A!aI!aU!aE!aO!aKA#aI#aU#aE#aO!aSA#aI#aU#aE#aO!aT",
  "A#aI#aU#aE#aO!aNA#aI#aU#aE#aO!aHA#aI#aU#aE#aO!aMA#aI#aU#aE#aO!aYA#aU#aO!aRA#aI#aU#aE#aO!aWA!aN",
  "taVOICED SOUND MARKtrSEMI-kaHANGUL FILLERraLETTER KIYEOKygSSANGyaKIYEOK-SIOSyaNIEUN%a-CIEUC&aH",
  "IEUHyaTIKEUTygSSANGyaRIEUL%a-KIYEOK&aMIEUM&aPIEUP&aSIOS&aTHIEUTH&bPHIEUP&bHIEUyaMIEUMyaPIEUPyf",
  "SSANGyaPIEUP-SIOSyezdSANGSyaIEUNGyaCIEUCyfSSANGyaCHIEUCHybKHIEUKybTHIEUTybPHIEUPybHIEU~FFC2yaA",
  "zaEyaYA!aEyaEOza~FFCAyaYEO!ayaOyaWA!aEybO~FFD2yaYOyaUyaWEO!azaIyaYU~FFDAybEyaYIyb~FFE0aaFULLWI",
  "DTH CENT SIGNkfPOUNDkfNOTkbMACROkaBROKEN BARkaYEN SIGNkgWO~FFE8aaHALFWIDTH FORMS LIGHT VERTICA",
  "LkaLEFTWARDS ARROWklUPklRIGHTklDOWNkaBLACK SQUAREkbWHITE CIRCL~FFF9aaINTERLINEAR ANNOTATION AN",
  "CHORxcSEPARATxeTERMINabOBJECT REPLACEMENT CHARACTEav~10000aaLINEAR B SYLLABLE B008 Aua38 Eua28",
  " Iua61 Oua10 Uua01 DAua45 DEua07 DIua14 DOua51 DUva7 JAua46 JE~1000Dua36 JOua65 JUua77 KAua44 ",
  "KEua67 KIua70 KOua81 KUva0 MAua13 MEua73 MIua15 MOua23 MUua06 NAua24 NEua30 NIua52 NOva5 NUua0",
  "3 PAua72 PEua39 PIua11 POua50 PUua16 QAua78 QEua21 QIua32 QO~10028ua60 RAua27 REua53 RIua02 RO",
  "ua26 RUua31 SAua09 SEua41 SIua12 SOua58 SUva9 TAua04 TEua37 TIua05 TOua69 TUua54 WAua75 WEua40",
  " WIva2 WO~1003Cua17 ZAua74 ZE~1003Fua20 ZOva5 A2ua43 A3ua85 AUua71 DWEua90 DWOua48 NWAua29 PU2",
  "ua62 PTEua76 RA2ua33 RA3ua68 RO2vb6 TAua87 TWEua91 TWO~10050laMBOL B018ta9sa22sa34sa47ta9sa56s",
  "a63ta4sa79sa82ta3ta6ta9~10080jaIDEOGRAM B100 MANvd2 WOva4 DEERva5 EQUIDwaF MAREwaM STALLIONva6",
  "F EWEwaM RAMva7F SHE-GOATwhM va8F SOWwaM BOARva9F COWwaM BULLua20 WHEATva1 BARLEYva2 OLIVEvb3 ",
  "SPICva5 CYPERUSjaMONOGRAM B127 KAPOvb8 KANAKjaIDEOGRAM B130 OILva1 WINEva2jaMONOGRAM B133 AREP",
  "Ava5 MERIjaIDEOGRAM B140 BRONZEva1 GOLDva2va5 WOOLva6ua50va1 HORNva2va3va4jaMONOGRAM B156 TURO",
  "2jaIDEOGRAM B157va8va9 CLOTHua60va1va2 GARMENTva3 ARMOURva4va5va6va7va8va9ua70va1va2va3 MONTHv",
  "a4va6 TREEva7va8va9ua80va1va2va3va4va5va9ua90va1 HELMETta220 FOOTSTOOLva5 BATHTUBua30 SPEARva1",
  " ARROWva2va3 SWORDva4va6ua40 WHEELED CHARIOTvi1va2 CHARIOT FRAMEva3 WHEELva5va6jaMONOGRAM B247",
  " DIPTEjaIDEOGRAM B248va9ua51va2va3va4 DARTva5va6va7va8va9saVESSEL B155!a200$a1$a2$a3$a4$a5$a6$",
  "a7$a8$a9#a10$a1$a2$a3$a4$a5$a6$a7$a8$a9#a21$a2$a6$a7$a8$a9#a50!a305~10100aaAEGEAN WORD SEPARAT",
  "OR LINEwaDOThaCHECK MARK~10107haNUMBER ONEoaTWOpaHREEoaFOURpaIVEoaSIXpaEVENoaEIGHToaNINEoaTENp",
  "aWENTYpcHIRodFOpcIFocSIXpcEVENocEIGHocNINEoaONE HUNDREDoiTWOpiHREEoiFOURpiIVEoiSIXpiEVENoiEIGH",
  "ToiNINEobONE THOUSANojTWOpjHREEojFOURpjIVEojSIXpjEVENojEIGHTojNINEojTENpjWENTYplHIRomFOplIFolS",
  "IXplEVENolEIGHolNINE~10137haWEIGHT BASE UNIToeFIRST SUBoiSECONDojTHIRoiFOURTHhiDRY MEASURE FIR",
  "SThwLIQUIDhiMEASURE SECONDpjTHIRaaGREEK ACROPHONIC ATTIC ONE QUARTER#aHALF#aDRACHMAxaFIVEzaFTY",
  "zaVE HUNDRED$bTHOUSANzjFTYzaVE TALENTSxiTENxiFIFTYxiONE HUNDREDxrFIVxjONE THOUSANxsFIV$bSTATER",
  "xiTENxiFIFTYxiONE HUNDREDxrFIVxjONE THOUSANxrTENxrFIFTYxbTEN MNAraHERAEUM ONE PLETHRONraTHESPI",
  "AN ONErhHERMIONraEPIDAUREAN TWOrgTHESPIraCYRENAIC TWO DRACHMASrnEPIDAUREANraTROEZENIAN FIVE$aT",
  "EN(a ALTERNATE FORMraHERMIONIAN TENriMESSErhTHESP#aHIRTYscROEZENIAN FIF*a ALTERNATE FORMraHERM",
  "IONIAN FIFTYrjTHESP!aONE HUNDRED!jTHRErjEPIDAUREAN FIVrpTROEZENIsqHESPrqCARYSTrqNAXrbTHESPIAN ",
  "ONE THOUSAN!kFIVraDELPHIC FIVE MNASrfSTRATIAN FIFTYgaONE HALF SIGNta ALTERNATE FORMgaTWO THIRD",
  "S SIGNhgHREE QUARTERgfYEARgfTALENTgfDRACHMAgfOBOLgfTWO OBOLShlHREEglFOURhlIVEggMETRETEgfKYATHO",
  "S BASEgfLITRAggOUNKIgfXESTESgfARTABEifOURAggGRAMMgfTRYBLION BASEgfZEROgfONE QUARTERgfSINUSOIDg",
  "fINDICTIONafNOMISMA~10190afROMAN SEXTANSgfUNCIAgkSEMigXTULgmDIMIDIA ggSILIQUgfDENARIUSglQUIgiS",
  "ESTERTgiDUPONDggAgfCENTURIALaaASCIA SYMBOL~101A0aaGREEK SYMBOL TAU RHO~101D0aaPHAISTOS DISC SI",
  "GN PEDESTRIANuaLUMED HEADthTATTOOtaCAPTIVEuaHILDtaWOMANtaHELMETtcGAUNTLtaTIARAtaARROWtcBtaSHIE",
  "LDtaCLUBtaMANACLESvaTTOCKtaSAWtaLIDtaBOOMERANGtaCARPENTRY PLANEtaDOLIUMtaCOMBtaSLINGtaCOLUMNta",
  "BEEHIVEtaSHIPtaHORNuaIDEtaBULLS LEGtaCATtaRAMtaEAGLEtbDOVtaTUNNYtaBEEtcPLANE TRtbVINtaPAPYRUSt",
  "aROSETTEtaLILYtaOX BACKtaFLUTEtaGRATERtcSTRAINuaMALL AXEtaWAVY BANDtaCOMBINING OBLIQUE STROKE~",
  "10280aaLYCIAN LETTER AoaEoaBpaHoaGoaDoaIoaWoaZoaTHoaJoaKoaQoaLoaMoaNoaMMoaNNoaUoaPoaKKoaRoaSoa",
  "TpaToaANobEoaHoaX~102A0aaCARIAN LETTER AoaP2oaDoaLoaUUUoaRoaLDoaA2oaQoaBoaMoaOoaD2oaToaSHqa2pa",
  "oaC-18oaUoaNNoaXoaNoaTT2oaPoaSSoaIoaEoaUUUUoaKpa2oaNDoaUUoaGpa2oaSTqa2oaNGoaIIoaC-39oaTToaUUU2",
  "oaRRoaMBqa2qa3qa4oaLD2obEoaUUU3~102E0baOPTIC EPACT THOUSANDS MARKnaDIGIT ONEtaTWOuaHREEtaFOURu",
  "aIVEtaSIXuaEVENtaEIGHTtaNINEnaNUMBER TENvaWENTYvcHIRudFOvcIFucSIXvcEVENucEIGHucNINEuaONE HUNDR",
  "EDuiTWOviHREEuiFOURviIVEuiSIXviEVENuiEIGHTuiNINE~10300aaOLD ITALIC LETTER AsaBEsbKsbDsbsbVsbZs",
  "bHscTsaIsaKAsaELtaMtaNtaSHsaOsaPEsbSHsaKUsaERtaSsaTEsaUsaEKSsaPHEscKsaEFtaRSsaCHEsaIIsaUUsaESS",
  "laNUMERAL ONEtbFIVtaTENtaFIFTY~1032DlaLETTER YEsbNORTHERN TSsjSOUaaGOTHIC LETTER AHSAoaBAIRKAN",
  "oaGIBAoaDAGSobAIHVUoaQAIRTHRAobIUJoaHAGLoaTHIUTHoaEISoaKUSMAoaLAGUSoaMANNAoaNAUTHSoaJERoaURUSo",
  "aPAIRTHRAoaNINETYoaRAIDAoaSAUILoaTEIWSoaWINJAoaFAIHUoaIGGWSoaHWAIRoaOTHALoaNINE HUNDRED~10350a",
  "aOLD PERMIC LETTER ANsaBURsaGAIsbDOsaEsaZHOIseDsaZATAscDZIsaIsaKOKEsaLEIsaMENOEseNsaVOOIsbPEEs",
  "cRsbSIsbTAsaUsaCHERYsaSHOOIudCHsaYRYtaERUsaOtaOsaEFsaHAsaTSIUsaVERscYvaItaATsaIEsaYUtaAsbIaaCO",
  "MBINING OLD PERMIC LETTER AN$aDOI$aZATA$aNENOE$aSII~10380aaUGARITIC LETTER ALPAqbBETqbGAMLqbKH",
  "qbDELTqaHOqbWqaZETAqcHOqaTETqaYODqaKAFqaSHINqaLAMDAqaMEMqaDHALqaNUNqaZUqaSAMKAqaAINqaPUqaSADEq",
  "aQOPAqbRASHqbTHANNqaGHAINqaTOqaIqaUqbSS~1039FjaWORD DIVIDERaaOLD PERSIAN SIGN AraIraUraKAsaUra",
  "GAsaUraXArbCrbJsaIraTAsaUraDAsaIsaUraTHArbPrbBrbFrbNsaUraMAsaIsaUraYArbVsaIraRAsaUraLArbSrbZrb",
  "SHsbSrbH~103C8rbAURAMAZDA#a-2#aHArbXSHAAYATHIYraDAHYAAUSH!a-2raBAGAsaUUMISHmaWORD DIVIDERmaNUM",
  "BER ONEtaTWOuaENuaWENTYtaHUNDRED~10400aaDESERET CAPITAL LETTER LONG I$aE$aA%aH$aO%aOxaSHORT I%",
  "aE%aA&aH%aO&aOxaAYxaOWxaWUxaYEExaHxaPEExcBxcTxcDxcCHxcJxaKAYxcGxaEFxaVEExaETHxaTHEExaESxaZEExa",
  "ESHxaZHEExaERyaLyaMyaNzaGxaOIxaEWiaSMALL LETTER LONG I!aE!aA#aH!aO#aOvaSHORT I#aE#aA$aH#aO$aOv",
  "aAYvaOWvaWUvaYEEvaHvaPEEvcBvcTvcDvcCHvcJvaKAYvcGvaEFvaVEEvaETHvaTHEEvaESvaZEEvaESHvaZHEEvaERwa",
  "LwaMwaNxaGvaOIvaEWaaSHAVIAN LETTER PEEPpaTOTpaKICKpaFEEpaTHIGHpaSOqaUREpaCHURCHpaYEApaHUNGpaBI",
  "BpaDEADpaGAGpaVOWpaTHEYpaZOOpaMEASUREpbJUDGpbWOpaHA-HApaLOLLpaMIMEpaIFpaEGGpaASHqaDOpaONpaWOOL",
  "paOUTpaAHpaROARpaNUNpaEATpaAGEpbICpaUPpaOAKqaOZEqaILpaAWEqbRpaORpbAIpbERpaARRAYpaEARpaIANpaYEW",
  "aaOSMANYA LETTER ALEFpaBApbTpbJpbXpbKHpaDEELpaRApbSqaHIINpaDHApaCAYNpaGApbFpaQAAFpdKpaLAANpbMI",
  "IpbNUUpaWAWpaHApbYpbpaEpaIpaOpaUpaAApaEEpaOO~104A0ibDIGIT ZERoaONEoaTWOpaHREEoaFOURpaIVEoaSIXp",
  "aEVENoaEIGHToaNINE~104B0caAGE CAPITAL LETTER AwaIxaNwaHvaBRAvbCHvdEHwawaINvaHAwbYvaIvaKAvcEHvb",
  "KYvbLvbMvbNvaOwaINvaPAvcEHvbSwbHvbTvcEHvbTSvdEHvbTSHvcDvaUvaWAvbKHvcGvbZwbH~104D8gbSMALL LETTE",
  "R uaIvaNuaHtaBRAtbCHtdEHuauaINtaHAubYtaItaKAtcEHtbKYtbLtbMtbNtaOuaINtaPAtcEHtbSubHtbTtcEHtbTSt",
  "dEHtbTSHtcDtaUtaWAtbKHtcGtbZubH~10500abELBASAN LETTER paBEpbCqbHpbDpcNpbDHpaEIqapbFpbGqbJpbHpa",
  "IpaJEpbKpbLqbLpbMpbNqaAqaJEpaOpaPEpbQpbRqbRpbSqbHpbTqbHpaUpaVEpbXpaYpaZEqbHpcGraAMMApaKHE~1053",
  "0aaCAUCASIAN ALBANIAN LETTER ALT!bBE!aGIM!aDAT!aEB!aZARL!aEYN!aZHIL!aTAS!aCHA!aYOWD!aZHA!aIRB!",
  "aSHA!aLAN!aINYA!aXEYN!bDYA!aCAR!aJHOX!aKAR!aLYIT!bHEY!aQAY!aAOR!aCHOY$aI#aYAY!aMAQ!aQAR!aNOWC!",
  "aDZYAY!aSHAK!aJAYN!bO!aTYAY!aFAM!aDZAY!aCHAT!aPEN!aGHEYS!aRAT!aSEYK!aVEYZ!aTIWR!aSHOY!aIWN!aCY",
  "AW#aAYN!aYAYD!aPIWR!aKIW~1056FtaCITATION MARKaaVITHKUQI CAPITAL LETTER AyaBBEzbybCzbHybDzbHyaE",
  "IzaybFyaGA~1057CybHzbHyaIzaJEycyaKAybLzbLyaMEybNzbJyaOyaPEyaQAyaRE~1058CybSzbHybTzbHyaUyaVEybX",
  "~10594yaYyaZE~10597jaSMALL LETTER AwaBBExbwbCxbHwbDxbHwaEIxawbFwaGA~105A3wbHxbHwaIxaJEwcwaKAwb",
  "LxbLwaMEwbNxbJwaOwaPEwaQAwaRE~105B3wbSxbHwbTxbHwaUwaVEwbX~105BBwaYwaZE~10600aaLINEAR A SIGN AB",
  "001sa2sa3sa4sa5sa6sa7sa8sa9ra10sa1sa3sa6sa7ra20sa1taFtaMsa2taFtaMsa3taMsa4sa6sa7sa8pa028BpaB02",
  "9ra30sa1sa4sa7sa8sa9ra40sa1sa4sa5sa6sa7sa8sa9ra50sa1sa3sa4sa5sa6sa7sa8sa9ra60sa1sa5sa6sa7sa9ra",
  "70sa3sa4sa6sa7sa8sa9ra80sa1sa2sa5sa6sa7pa100-102paB118ra20pa120BpaB122sa3ra31AtaBpa131CpaB164r",
  "a71ra80sa8ra91pb30ra2ra3ra4ra5ra6ra7ra8ra9AsaBsaCqa10ra1ra2ra3AsaBsaCra4ra5ra6ra7ra8ra9qa20ra1",
  "ra2ra3ra4ra5ra6ra7ra8ra9qa30ra1ra2ra3ra4ra5ra6ra7ra8ra9qa40ra1ra2ra3ra4ra5ra6ra7ra8ra9qa50ra1r",
  "a2ra3ra4ra5ra6ra7ra8ra9qa60ra1ra2ra3ra4ra5ra6ra7ra8ra9qa70ra1pa400-VASre1re2re3re4re5re6re7re8",
  "re9qe10re1re2re3re4re5re6re7re8pa501ra2ra3ra4ra5ra6ra8ra9qa10ra1ra2ra3ra5ra6qa20ra1ra3ra4ra5ra",
  "6ra7ra8ra9qa30ra1ra2ra4ra5ra6ra7ra8ra9qa40ra1ra2ra5ra7ra8ra9qa50ra1ra2ra3ra4ra5ra6ra7ra9qa63ra",
  "4ra5ra6ra8ra9qa70ra1ra2ra3ra4ra5ra6ra7ra8ra9qa80ra1ra2ra3ra4ra5ra6ra7ra8ra9qa91ra2ra4ra5ra6ra8",
  "pa600ra1ra2ra3ra4ra6ra8ra9qa10ra1ra2ra3ra4ra5ra6ra7ra8ra9qa20ra1ra2ra3ra4ra6ra7ra8ra9qa34ra7ra",
  "8qa40ra2ra3ra4ra5ra6ra8ra9qa51ra2ra3ra4ra5ra6ra7ra8ra9qa60ra1ra2ra3ra4~10740pa701 Ara2 Bra3 Dr",
  "a4 Era5 Fra6 Hra7 Jra8 Kra9 Lsa-2 L2ta3 L3ta4 L4ta6 L6qa10 Wra1 Xra2 Yra3 OMEGAra4 ABBrc5 ra7 ",
  "DDqa26 EYYYqa32 JE~10760pa800ra1ra2ra3ra4ra5ra6ra7~10780aaMODIFIER LETTER SMALL CAPITAL AAraUP",
  "ERSCRIPT TRIANGULAR COLON$qHALF raMALL AEwaCAPITAL BwaB WITH HOOK~10787waDZ DIGRAPH)a WITH RET",
  "ROFLEX HOOK;aCURLxaEZH DIGRAPHxa WITH TAIL%aHOOK*a AND TAILwaREVERSED EwcCLOSED REVERSED OPENw",
  "aFENG DIGRAPHwaRAMS HORNwaCAPITAL GwaG WITH HOOKwlCAPITAL waH WITH STROKEwaCAPITAL HwaHENG WIT",
  "H HOOKwfDOTLESS J WITH STROKE ANDwaLS DIGRAPHxiZxa WITH BELTwlCAPITAL wfL WITH RETROFLEX HOOK ",
  "ANDxaEZH!a WITH RETROFLEX HOOKwaTURNED Y&a WITH BELTwaO WITH STROKEwbCAPITAL OxaLOSED OMEGAwaQ",
  "waTURNED R WITH LONG LEG]a AND RETROFLEX HOOKwaR WITH TAIL%aFISHHOOKwaCAPITAL RwaTC DIGRAPH WI",
  "TH CURLxaS DIGRAPH)a WITH RETROFLEX HOOKxaESH DIGRAPHxa WITH RETROFLEX HOOKwfV WITH RIGHT~107B",
  "2waCAPITAL YqaGLOTTAL STOP WITH STROKEqyREVERSED qaBILABIAL CLICKqiDENTqiLATERqgALVEOLARqbRETR",
  "OFLEX CLICK WITH RETROFLEX HOOqaSMALL S WITH CURL~10800aaCYPRIOT SYLLABLE AraEraIraOraUraJA~10",
  "808saO~1080AraKAsaEsaIsaOsaUraLAsaEsaIsaOsaUraMAsaEsaIsaOsaUraNAsaEsaIsaOsaUraPAsaEsaIsaOsaUra",
  "RAsaEsaIsaOsaUraSAsaEsaIsaOsaUraTAsaEsaIsaOsaUraWAsaEsaIsaO~10837raXAsaE~1083CraZA~1083FsaOaaI",
  "MPERIAL ARAMAIC LETTER ALEPHybBETyaGIMELyaDALETHyaHEyaWAWyaZAYINyaHETHydTybYODybKAPybLAMEDyaME",
  "MyaNUNyaSAMEKHyaAYINyaPEybSADHyaQOPHybRESyaSHINyaTAW~10857raSECTION SIGNraNUMBER ONEyaTWOzaHRE",
  "EzaENzaWENTYyaONE HUNDRED$bTHOUSANyjTENaaPALMYRENE LETTER ALEPHrbBETraGIMELraDALETHraHEraWAWra",
  "ZAYINraHETHrdTrbYODrbKAPrbLAMEDraMEMraFINAL NUNrdraSAMEKHraAYINraPErbSADHraQOPHrbRESraSHINraTA",
  "WmaFT-POINTING FLEURONksRIGHkaNUMBER ONEraTWOsaHREEraFOURsaIVEraTENsaWENTYaaNABATAEAN LETTER F",
  "INAL ALEPHrfrbFINAL BETreraGIMELraDALETHraFINAL HErcraWAWraZAYINraHETHrdTrbFINAL YODrerbFINAL ",
  "KAPrerbFINAL LAMEDrgraFINAL MEMrdraFINAL NUNrdraSAMEKHraAYINraPErbSADHraQOPHrbRESraFINAL SHINr",
  "eraTAW~108A7kaNUMBER ONEraTWOsaHREEraFOURklCRUCIFORM kaNUMBER FIVEraTENsaWENTYraONE HUNDRED~10",
  "8E0aaHATRAN LETTER ALEPHobBEToaGIMELoaDALETH-RESHoaHEoaWAWoaZAYNoaHETHodTobYODobKAPobLAMEDoaME",
  "MoaNUNoaSAMEKHoaAYNoaPEobSADHoaQOPH~108F4oaSHINoaTAW~108FBhaNUMBER ONEobFIVoaTENpaWENTYoaONE H",
  "UNDREDaaPHOENICIAN LETTER ALFsaBETsaGAMLsaDELTsaHEsaWAUsaZAIsaHETscTsaYODsaKAFsaLAMDsaMEMsaNUN",
  "saSEMKsaAINsaPEsbSADsaQOFsaROSHsaSHINsaTAUlaNUMBER ONEsaTENtaWENTYsaONE HUNDREDsaTWOtaHREE~109",
  "1FlaWORD SEPARATORaaLYDIAN LETTER AoaBoaGoaDoaEoaVoaIoaYoaKoaLoaMoaNoaOoaRoaSSoaToaUoaFoaQoaSo",
  "aTToaANobEoaLYoaNNoaC~1093FhaTRIANGULAR MARK~10980aaMEROITIC HIEROGLYPHIC LETTER A%aE%aI%aO%aY",
  "A%bW%bB(a-2%aPA%bM%bN(a-2&aE(a-2%aRA(a-2%aLA%bKH%cH%bS(a-2&aE%aKA%bQ%bT(a-2&aE(a-2&aO%aDAwaSYM",
  "BOL VIDJ*a-2jaCURSIVE LETTER AyaEyaIyaOyaYAybWybBybPybMybNzaEyaRAybLybKHycHybSycARCHAIC yaSEya",
  "KAybQybTzaEzaOyaDA~109BCraFRACTION ELEVEN TWELFTHS!aONE HALFraLOGOGRAM RMT!aIMNraNUMBER ONEyaT",
  "WOzaHREEyaFOURzaIVEyaSIXzaEVENyaEIGHTyaNINEyaTENzaWENTYzcHIRydFOzcIFycSIXzcEVEN~109D2yaONE HUN",
  "DREDyiTWOziHREEyiFOURziIVEyiSIXziEVENyiEIGHTyiNINEybONE THOUSANyjTWOzjHREEyjFOURzjIVEyjSIXzjEV",
  "ENyjEIGHTyjNINEyjTENzjWENTYzlHIRymFOzlIFylSIXzlEVENylEIGHylNINEyjONE HUNDREDyrTWOzrHREEyrFOURz",
  "rIVEyrSIXzrEVENyrEIGHTyrNINEraFRACTION ONE TWELFTH!aTWO TWELFTHS#jHREE!jFOUR#jIVE!jSIX#jEVEN!j",
  "EIGHT!jNINE!jTENaaKHAROSHTHI LETTER AlaVOWEL SIGN IwaUwaVOCALIC R~10A05waEwaO~10A0CraLENGTH MA",
  "RKlaSIGN DOUBLE RING BELOWqaANUSVARAqbVISARGlbLETTER KtbHsbGtbH~10A15sbCtbHsbJ~10A19sbNYsbTTub",
  "HsbDDubHsbNNsbTtbHsbDtbHsbNsbPtbHsbBtbHsbMsbYsbRsbLsbVsbSHtbStbsbZsbHsbKKsbTTTHvbsbVH~10A38laS",
  "IGN BAR ABOVEqaCAUDAqaDOT BELOW~10A3FlaVIRAMAlaDIGIT ONEraTWOsaHREEraFOURlaNUMBER TENtaWENTYsa",
  "ONE HUNDREDwbTHOUSANlaFRACTION ONE HALF~10A50laPUNCTUATION DOTxaSMALL CIRCLExgyaRESCENT BARxaM",
  "ANGALAMxaLOTUSxaDANDAyeOUBLE DxaLINES~10A60aaOLD SOUTH ARABIAN LETTER HEzaLAMEDHzbHETzaMEMzaQO",
  "PHzaWAWzaSHINzaRESHzbBETzaTAWzaSATzaKAPHzaNUNzaKHETHzaSADHE#aMEKHzaFEzaALEF!aYNzaDHADHEzaGIMEL",
  "zaDALETHzaGHAYNzaTETHzaZAYNzaDHALETHzbYODzaTHAW#aETHsaNUMBER ONEzaFIFTYvaERIC INDICATOReaNORTH",
  " ARABIAN LETTER HEHzaLAMzaHAHzaMEEMzaQAFzaWAWzaES-2zaREHzcBzcTzaES-1zaKAFzaNOONzaKHAHzaSADzaES",
  "-3zaFEHzaALEF!aINzaDADzaGEEMzaDALzaGHAINzaTAHzaZAINzaTHALzaYEHzcTHzbZAsaNUMBER ONEzaTEN!aWENTY",
  "~10AC0aaMANICHAEAN LETTER ALEPHsbBETtdHsaGIMELteHsaDALETHsaHEsaWAWlaSIGN UDlaLETTER ZAYINteHse",
  "JteHsaHETHsdTsbYODsbKAPsdXsdKHsbLAMEDsfDHsgTsaMEMsaNUNsaSAMEKHsaAYINtdAsaPEsbFsbSADHsaQOPHsdXs",
  "dQHsbRESsaSHINtdSsaTAWlaABBREVIATION MARK ABOVE%aBELOW~10AEBlaNUMBER ONEsbFIVsaTENtaWENTYsaONE",
  " HUNDREDlaPUNCTUATION STARxaFLEURONxaDOUBLE DOT WITHIN DOTzm!axaTWO DOTSxaLINE FILLER~10B00aaA",
  "VESTAN LETTER AqaAqaOqbAqaNqbAqaEraEpbqaEpaOqaOpaIqaIpaUqaUpaKEpbXqbYqbVpbGqbGqbHpbCpbJpbTqbHp",
  "bDqbHpbTTpbPpbFpbBqbHpbNGrbYrbVqbqbYqbNpbMpcHpbYYqbpbVpbRpbLpbSpbZpbSHpcZpbSHYqbSHpc~10B39iaAB",
  "BREVIATION MARKaaTINY TWO DOTS OVER ONE DOT PUNCTUATIONa+SMALLa+LARGEgmONE DOT OVER TWO DOTSgm",
  "TWO RINGS OVER ONE RINGgmONE RING OVER TWO RINGSaaINSCRIPTIONAL PARTHIAN LETTER ALEPH&bBET&aGI",
  "MEL&aDALETH&aHE&aWAW&aZAYIN&aHETH&dT&bYOD&bKAP&bLAMED&aMEM&aNUN&aSAMEKH&aAYIN&aPE&bSADH&aQOPH&",
  "bRES&aSHIN&aTAW~10B58xaNUMBER ONE&aTWO(aHREE&aFOUR&aTEN(aWENTY&aONE HUNDRED+bTHOUSANqaHLAVI LE",
  "TTER ALEPH%bBET%aGIMEL%aDALETH%aHE%aWAW-AYIN-RESH%aZAYIN%aHETH%dT%bYOD%bKAP%bLAMED%bMEM-QOP%aN",
  "UN%aSAMEKH%aPE%bSADH&aHIN%aTAW~10B78waNUMBER ONE%aTWO&aHREE%aFOUR%aTEN&aWENTY%aONE HUNDRED*bTH",
  "OUSANaaPSALTER PAHLAVI LETTER ALEPHxbBETxaGIMELxaDALETHxaHExaWAW-AYIN-RESHxaZAYINxaHETHxbYODxb",
  "KAPxbLAMEDxbMEM-QOPxaNUNxaSAMEKHxaPExbSADHyaHINxaTAW~10B99qaSECTION MARKqmTURNED qaFOUR DOTS W",
  "ITH CROSS(aDOT~10BA9qaNUMBER ONExaTWOyaHREExaFOURxaTENyaWENTYxaONE HUNDRED~10C00aaOLD TURKIC L",
  "ETTER ORKHON AscYENISEI#aEsaORKHON IscYENISEI!aEsaORKHON O!aEsdYENISEIsaORKHON ABsdYENISEIsbOR",
  "KHON AEseYENISEIsaORKHON AGsdYENISEIsbORKHON AEseYENISEIsaORKHON ADsdYENISEIsbORKHON AEzaEZsdY",
  "ENISEIsaORKHON AYsdYENISEIsbORKHON AEseYENISEIsaORKHON AEKseYENISEIscORKHON OseYENISEIsaORKHON",
  " ALsdYENISEIsbORKHON AEzaELT!aMzaAN!bEseYENISEIsaORKHON ENTseYENISEIsaORKHON ENCseYENISEIsaORK",
  "HON ENYseYENISEI!aANGscORKHON EsdYENISEI AsaORKHON EPzbOzaICzbEsdYENISEIsaORKHON AQsdYENISEIsb",
  "ORKHON IsdYENISEIsbORKHON OsdYENISEIsaORKHON ARsdYENISEIsbORKHON AE!aS!bE!aSHseYENISEIscORKHON",
  " EseYENISEIsaORKHON ATsdYENISEIsbORKHON AEseYENISEIsbORKHON OzaBASH~10C80eaHUNGARIAN CAPITAL L",
  "ETTER A&aA%aEB%bAM%aEC&bN&aCS&aD%bAN%aE%bCLOSE %bE&aF&aG(aY&aH%aI&aI%aEJ&aK%bA%bUN%aEL(aY&aM&a",
  "N(aY%aO&aO%aNIKOLSBURG OE%dRUDIMENTA%bOE%aEP&bM&aR%cSHORT %aES(aZ&aT&bN&aTY&aCH%aU&aU%aNIKOLSB",
  "URG UE%dRUDIMENTA%aEV&aZ(aS&aNT-SHAPED SIGN%aUS~10CC0oaSMALL LETTER A$aA#aEB#bAM#aEC$bN$aCS$aD",
  "#bAN#aE#bCLOSE #bE$aF$aG%aY$aH#aI$aI#aEJ$aK#bA#bUN#aEL%aY$aM$aN%aY#aO$aO#aNIKOLSBURG OE#dRUDIM",
  "ENTA#bOE#aEP$bM$aR#cSHORT #aES%aZ$aT$bN$aTY$aCH#aU$aU#aNIKOLSBURG UE#dRUDIMENTA#aEV$aZ%aS$aNT-",
  "SHAPED SIGN#aUS~10CFAoaNUMBER ONEvbFIVvaTENvaFIFTYvaONE HUNDREDzbTHOUSANaaHANIFI ROHINGYA LETT",
  "ER AxbBxbPxbTybTxbJxbCxbHxcKxbFxbDybDxbRybRxbZxbSybHxbKxbGxbLxbMxbNxbWxcKINNA xbYxcKINNA xbNGy",
  "bYxbVqbVOWEL waIwaUwaEwaOqaMARK SAKINvaNA KHONNAqaSIGN HARBAHAYvaTAHALAxbNxaSSI~10D30qaDIGIT Z",
  "EROwaONEwaTWOxaHREEwaFOURxaIVEwaSIXxaEVENwaEIGHTwaNINE~10E60acRUMI DIGIT OlaTWOmaHREElaFOURmaI",
  "VElaSIXmaEVENlaEIGHTlaNINEfaNUMBER TENnaWENTYncHIRmdFOncIFmcSIXncEVENmcEIGHmcNINEmaONE HUNDRED",
  "miTWOniHREEmiFOURniIVEmiSIXniEVENmiEIGHTmiNINEfaFRACTION ONE HALFsaQUARTERsaTHIRDoaTWO THIRDS~",
  "10E80aaYEZIDI LETTER ELIFoaBEobPpbHocTobSoaCIMpcHqcHoaHHAobXoaDALocZoaRApbHobZobJoaSINpcHpaADo",
  "cDoaTAoaZEoaEYNodXHoaFAobVqa ALTERNATE FORMoaQAFocKpcHocGoaLAMobMIoaNUNoaUMoaWAWobOobEoaHAYoaY",
  "OTobE~10EABhaCOMBINING HAMZA MARKrgMADDhfHYPHENATION~10EB0haLETTER LAM WITH DOT ABOVEogYOT WIT",
  "H CIRCUMFLEX~10F00aaOLD SOGDIAN LETTER ALEPHtfFINAL tbBETteFINAL taGIMELtaHEtcFINAL taWAWtaZAY",
  "INtaHETHtbYODtbKAPtbLAMEDtaMEMtaNUNtdFINAL $a WITH VERTICAL TAILtaSAMEKHtaAYINudLTERNATE AtaPE",
  "tbSADHtfFINAL &a WITH VERTICAL TAILtaRESH-AYIN-DALETHtaSHINtaTAWtdFINAL $a WITH VERTICAL TAILm",
  "aNUMBER ONEtaTWOuaHREEtaFOURuaIVEtaTENuaWENTYucHIRtaONE HUNDREDmaFRACTION ONE HALFmaLIGATURE A",
  "YIN-DALETH~10F30abSOGDIAN LETTER ALEPpbBETpaGIMELpaHEpaWAWpaZAYINpaHETHpbYODpbKAPpbLAMEDpaMEMp",
  "aNUNpaSAMEKHpaAYINpaPEpbSADHpaRESH-AYINpcSHpaTAWpaFETHpbLESiaINDEPENDENT SHINiaCOMBINING DOT B",
  "ELOWsgTWO DOTSsaDOT ABOVEsgTWO DOTSsgCURVEyaBELOWsaHOOK ABOVExaBELOWskLONG sgRESHsgSTROKEiaNUM",
  "BER ONEpaTENqaWENTYpaONE HUNDREDiaPUNCTUATION TWO VERTICAL BARS:a WITH DOTSuaCIRCLE WITH DOTua",
  "TWO CIRCLES WITH DOTSuaHALF CIRCLE WITH DOT~10F70aaOLD UYGHUR LETTER ALEPHsbBETsdGIMEL-HsaWAWs",
  "aZAYINsaFINAL HETHsbYODsbKAPsbLAMEDsaMEMsaNUNsaSAMEKHsaPEsbSADHsaRESHsaSHINsaTAWsaLESHlaCOMBIN",
  "ING DOT ABOVEzaBELOWvaTWO DOTS ABOVE&aBELOWlaPUNCTUATION BARxaTWO BARS#bDOTxfFOUR~10FB0aaCHORA",
  "SMIAN LETTER ALEPHsfSMALL sbBETsaGIMELsaDALETHsaHEsaWAWsdCURLED saZAYINsaHETHsbYODsbKAPsbLAMED",
  "saMEMsaNUNsaSAMEKHsaAYINsaPEsaRESHsaSHINsaTAWlaNUMBER ONEsaTWOtaHREEsaFOURsaTENtaWENTYsaONE HU",
  "NDRED~10FE0aaELYMAIC LETTER ALEPHpbBETpaGIMELpaDALETHpaHEpaWAWpaZAYINpaHETHpdTpbYODpbKAPpbLAME",
  "DpaMEMpaNUNpaSAMEKHpaAYINpaPEpbSADHpaQOPHpbRESpaSHINpaTAWjaIGATURE ZAYIN-YODH~11000aaBRAHMI SI",
  "GN CANDRABINDUmaANUSVARAmbVISARGmbJIHVAMULIYmdUPADHMANhbLETTER paAoaIpaIoaUpaUoaVOCALIC RxaRwa",
  "LxaLoaEoaAIoaOoaAUoaKApbHobGpbHobNGobCpbHobJpbHobNYobTTqbHobDDqbHobNNobTpbHobDpbHobNobPpbHobBp",
  "bHobMobYobRobLobVobSHpbSpbobHobLLodOLD TAMIL LybRRybNNNhbVOWEL SIGN AscBHATTIPROLU saItaIsaUta",
  "UsaVOCALIC R#aR!aL#aLsaEsaAIsaOsaAUiaIRAMAhbDANDieOUBLE DhaPUNCTUATION DOTvbUBLE DOtaLINEtaCRE",
  "SCENT BARtaLOTUS~11052haNUMBER ONEoaTWOpaHREEoaFOURpaIVEoaSIXpaEVENoaEIGHToaNINEoaTENpaWENTYpc",
  "HIRodFOpcIFocSIXpcEVENocEIGHocNINEoaONE HUNDREDsbTHOUSANhaDIGIT ZEROnaONEnaTWOoaHREEnaFOURoaIV",
  "EnaSIXoaEVENnaEIGHTnaNINEhaSIGN OLD TAMIL VIRAMAhaLETTER OLD TAMIL SHORT E&aOhaVOWEL SIGN OLD ",
  "TAMIL SHORT E+aOhaLETTER OLD TAMIL LLA~1107FhaNUMBER JOINERaaKAITHI SIGN CANDRABINDUmaANUSVARA",
  "mbVISARGhbLETTER paAoaIpaIoaUpaUoaEoaAIoaOoaAUoaKApbHobGpbHobNGobCpbHobJpbHobNYobTTqbHobDDqbDH",
  "qcocRobNNobTpbHobDpbHobNobPpbHobBpbHobMobYobRobLobVobSHpbSpbobHhbVOWEL SIGN AsaItaIsaUtaUsaEsa",
  "AIsaOsaAUhaSIGN VIRAMAmbNUKThaABBREVIATION SIGNhkENUMERhfNUMBERhaSECTION MARKhmDOUBLE iaANDAie",
  "OUBLE DhaVOWEL SIGN VOCALIC R~110CDhaNUMBER SIGN ABOVE~110D0aaSORA SOMPENG LETTER SAHucTucBucC",
  "ucDucGucMucNGucLucNucVucPucYucRucHucKucJucNYucubEEubIubUubOubEuaMAE~110F0naDIGIT ZEROtaONEtaTW",
  "OuaHREEtaFOURuaIVEtaSIXuaEVENtaEIGHTtaNINE~11100aaCHAKMA SIGN CANDRABINDUmaANUSVARAmbVISARGhbL",
  "ETTER AoaIoaUoaEoaKAApcHocGpcHocNGocCpcHocJpcHocNYocTTqcHocDDqcHocNNocTpcHocDpcHocNocPpcHocBpc",
  "HocMocYYpcocRocLocWocSocHhbVOWEL SIGN saItaIsaUtaUsaEsaAIsaOsaAUsaOIhaO MARKhfAUhaVIRAMAhbMAAY",
  "YA~11136haDIGIT ZEROnaONEnaTWOoaHREEnaFOURoaIVEnaSIXoaEVENnaEIGHTnaNINEhaSECTION MARKhaDANDAie",
  "OUBLE DhaQUESTION MARKhaLETTER LHAAhcVOWEL SIGN saEIhaLETTER VAA~11150abMAHAJANI LETTER qaIqaU",
  "qaEqaOqaKArbHqbGrbHqbCrbHqbJrbHqbNYqbTTsbHqbDDsbHqbNNqbTrbHqbDrbHqbNqbPrbHqbBrbHqbMqbRqbLqbVqb",
  "SqbHqbRRjbSIGN NUKTjaABBREVIATION SIGNjaSECTION MARKjaLIGATURE SHRI~11180aaSHARADA SIGN CANDRA",
  "BINDUnaANUSVARAnbVISARGibLETTER qaApaIqaIpaUqaUpaVOCALIC RyaRxaLyaLpaEpaAIpaOpaAUpaKAqbHpbGqbH",
  "pbNGpbCqbHpbJqbHpbNYpbTTrbHpbDDrbHpbNNpbTqbHpbDqbHpbNpbPqbHpbBqbHpbMpbYpbRpbLqbLpbVpbSHqbSqbpb",
  "HibVOWEL SIGN AtaIuaItaUuaUtaVOCALIC R$aR#aL$aLtaEtaAItaOtaAUiaSIGN VIRAMAnbAVAGRAHnbJIHVAMULI",
  "YndUPADHMANiaOMiaDANDAjeOUBLE DiaABBREVIATION SIGNiaSEPARATORjaANDHI MARKjaIGN NUKTAiaVOWEL MO",
  "DIFIER MARKifEXTRA SHORT VOWELifSUTRAiaVOWEL SIGN PRISHTHAMATRA EiaSIGN INVERTED CANDRABINDUia",
  "DIGIT ZEROoaONEoaTWOpaHREEoaFOURpaIVEoaSIXpaEVENoaEIGHToaNINEiaEKAMicSIGN SIDDHiaHEADSTROKEiaC",
  "ONTINUATION SIGNiaSECTION MARK-1va2~111E1baINHALA ARCHAIC DIGIT ONEwaTWOxaHREEwaFOURxaIVEwaSIX",
  "xaEVENwaEIGHTwaNINEqaNUMBER TENyaWENTYycHIRxdFOycIFxcSIXycEVENxcEIGHxcNINExaONE HUNDRED#bTHOUS",
  "AN~11200aaKHOJKI LETTER ApaAoaIoaUoaEoaAIoaOoaAUoaKApbHobGpbGpbHobNGobCpbHobJpbJ~11213obNYobTT",
  "qbHobDDqbHobNNobTpbHobDpbDDpbHobNobPpbHobBpbBpbHobMobYobRobLobVobSobHobLLhbVOWEL SIGN AsaItaIs",
  "aUsaEsaAIsaOsaAUhaSIGN ANUSVARAmbVIRAMmbNUKTmbSHADDhcDANieOUBLE DhaWORD SEPARATORhaSECTION MAR",
  "KhmDOUBLE haABBREVIATION SIGNhbSIGN SUKU~11280aaMULTANI LETTER ApaIpaUpaEpaKAqbHpbG~11288qbH~1",
  "128ApbCqbHpbJqbJ~1128FpbNYpbTTrbHpbDDrbDrbHpbNNpbTqbHpbDqbHpbNpbPqbHpbB~1129FqbHpbMpbYpbRpbLpb",
  "VpbSpbHpbRRqbHiaSECTION MARK~112B0aaKHUDAWADI LETTER AsaAraIsaIraUsaUraEraAIraOraAUraKAsbHrbGs",
  "bGsbHrbNGrbCsbHrbJsbJsbHrbNYrbTTtbHrbDDtbDrbRRrbDDHrbNNrbTsbHrbDsbHrbNrbPsbHrbBsbBsbHrbMrbYrbR",
  "rbLrbVrbSHsbrbHkbSIGN ANUSVARkbVOWEL SIGN AvaIwaIvaUwaUvaEvaAIvaOvaAUkaSIGN NUKTApbVIRAM~112F0",
  "kaDIGIT ZEROqaONEqaTWOraHREEqaFOURraIVEqaSIXraEVENqaEIGHTqaNINE~11300abGRANTHA SIGN COMBINING ",
  "ANUSVARA ABOVoaANDRABINDUnaANUSVARAnbVISARG~11305ibLETTER qaApaIqaIpaUqaUpaVOCALIC RxaL~1130Fp",
  "aEEpaAI~11313paOOpaAUpaKAqbHpbGqbHpbNGpbCqbHpbJqbHpbNYpbTTrbHpbDDrbHpbNNpbTqbHpbDqbHpbN~1132Ap",
  "bPqbHpbBqbHpbMpbYpbR~11332pbLqbL~11335pbVpbSHqbSqbpbH~1133BaaCOMBINING BINDU BELOWaaGRANTHA SI",
  "GN NUKTAnbAVAGRAHibVOWEL SIGN AtaIuaItaUuaUtaVOCALIC R$aR~11347taEEtaAI~1134BtaOOtaAUiaSIGN VI",
  "RAMA~11350iaOM~11357iaAU LENGTH MARK~1135DiaSIGN PLUTAibLETTER VEDIC ANUSVARviDOUBLE qaOCALIC ",
  "RRxaLLibVOWEL SIGN VOCALIC $aL~11366aaCOMBINING GRANTHA DIGIT ZEROyaONEyaTWOzaHREEyaFOURzaIVEy",
  "aSIX~11370saLETTER AzbKzbNzaVIzaPA~11400abNEWA LETTER naAmaInaImaUnaUmaVOCALIC RvaRuaLvaLmaEma",
  "AImaOmaAUmaKAnbHmbGnbHmbNGobHmbCnbHmbJnbHmbNYobHmbTTobHmbDDobHmbNNmbTnbHmbDnbHmbNnbHmbPnbHmbBn",
  "bHmbMnbHmbYmbRnbHmbLnbHmbWmbSHnbSnbmbHfbVOWEL SIGN AqaIraIqaUraUqaVOCALIC RzaRyaLzaLqaEqaAIqaO",
  "qaAUfaSIGN VIRAMAkaCANDRABINDUkaANUSVARAkbVISARGkbNUKTkbAVAGRAHkbFINAL ANUSVARfaOMfaSIDDHIfaDA",
  "NDAgeOUBLE DfbCOMMfaGAP FILLERfaABBREVIATION SIGNfaDIGIT ZEROlaONElaTWOmaHREElaFOURmaIVElaSIXm",
  "aEVENlaEIGHTlaNINEgaOUBLE COMMAfaPLACEHOLDER MARK~1145DfaINSERTION SIGNfaSANDHI MARKfaLETTER V",
  "EDIC ANUSVARAfbSIGN JIHVAMULIYkdUPADHMAN~11480aaTIRHUTA ANJIiaLETTER AqaApaIqaIpaUqaUpaVOCALIC",
  " RyaRxaLyaLpaEpaAIpaOpaAUpaKAqbHpbGqbHpbNGpbCqbHpbJqbHpbNYpbTTrbHpbDDrbHpbNNpbTqbHpbDqbHpbNpbP",
  "qbHpbBqbHpbMpbYpbRpbLpbVpbSHqbSqbpbHibVOWEL SIGN AtaIuaItaUuaUtaVOCALIC R$aR#aL$aLtaEtbSHORT t",
  "aAItaOtbSHORT taAUibSIGN CANDRABINDnaANUSVARAnbVISARGpbRAMnbNUKTnbAVAGRAHiaGVANGiaABBREVIATION",
  " SIGNiaOM~114D0iaDIGIT ZEROoaONEoaTWOpaHREEoaFOURpaIVEoaSIXpaEVENoaEIGHToaNINE~11580aaSIDDHAM ",
  "LETTER AqaApaIqaIpaUqaUpaVOCALIC RyaRxaLyaLpaEpaAIpaOpaAUpaKAqbHpbGqbHpbNGpbCqbHpbJqbHpbNYpbTT",
  "rbHpbDDrbHpbNNpbTqbHpbDqbHpbNpbPqbHpbBqbHpbMpbYpbRpbLpbVpbSHqbSqbpbHibVOWEL SIGN AtaIuaItaUuaU",
  "taVOCALIC R$aR~115B8taEtaAItaOtaAUibSIGN CANDRABINDnaANUSVARAnbVISARGpbRAMnbNUKTnaSIDDHAMiaDAN",
  "DAjeOUBLE DiaSEPARATOR DOTsaBARiaREPETITION MARK-1ya2ya3iaEND OF TEXT MARKiaSECTION MARK WITH ",
  "TRIDENT AND U-SHAPED ORNAMENTS;eDOTTED CRESC!vRAYS@jDOUBLE @mTRIPvaDOUBLE RING)a WITH RAYSvbWI",
  "TH DOUBLE CRESCENT!mTRIP!nQUADRU!oSEPT!bCIRCLES AND RAY;bTWO ENCLOSURE;lFOURiaLETTER THREE-CIR",
  "CLE ALTERNATE IqtWO:aIpaALTERNATE UimVOWEL SIGN&aU~11600aaMODI LETTER AnaAmaInaImaUnaUmaVOCALI",
  "C RvaRuaLvaLmaEmaAImaOmaAUmaKAnbHmbGnbHmbNGmbCnbHmbJnbHmbNYmbTTobHmbDDobHmbNNmbTnbHmbDnbHmbNmb",
  "PnbHmbBnbHmbMmbYmbRmbLmbVmbSHnbSnbmbHmbLLfbVOWEL SIGN AqaIraIqaUraUqaVOCALIC RzaRyaLzaLqaEqaAI",
  "qaOqaAUfaSIGN ANUSVARAkbVISARGmbRAMkbARDHACANDRfbDANDgeOUBLE DfaABBREVIATION SIGNfaSIGN HUVA~1",
  "1650faDIGIT ZEROlaONElaTWOmaHREElaFOURmaIVElaSIXmaEVENlaEIGHTlaNINE~11660caNGOLIAN BIRGA WITH ",
  "ORNAMENTkaROTATED BIRGAkaDOUBLE BIRGA WITH ORNAMENTkwTRIPkjBIRGA WITH DOUBLEkjROTATED BIRGA WI",
  "TH%iDOUBLE kaINVERTED BIRGAya WITH DOUBLE ORNAMENTkaSWIRL BIRGAva WITH ORNAMENT#iDOUBLE k)TURN",
  "ED ~11680aaTAKRI LETTER AoaAnaIoaInaUoaUnaEnaAInaOnaAUnaKAobHnbGobHnbNGnbCobHnbJobHnbNYnbTTpbH",
  "nbDDpbHnbNNnbTobHnbDobHnbNnbPobHnbBobHnbMnbYnbRnbLnbVnbSHobnbHnbRRgcSIGN ANUSVAlbVISARGgbVOWEL",
  " SIGN AraIsaIraUsaUraEraAIraOraAUgaSIGN VIRAMAlbNUKTgbLETTER ARCHAIC KHgaABBREVIATION SIGN~116",
  "C0gaDIGIT ZEROmaONEmaTWOnaHREEmaFOURnaIVEmaSIXnaEVENmaEIGHTmaNINE~11700aaAHOM LETTER KAnbHmbNG",
  "nbmbTmcALTERNATE mbPnbHmbBmbMmbJmbCHmcTmbRmbLmbSmbNYmbHmbmbDnbHmbGmcALTERNATE mbGHmcBmcJmbALTE",
  "RNATE B~1171DfbCONSONANT SIGN MEDIAL L#bR#cLIGATING fbVOWEL SIGN raAqaIraIqaUraUqaEqaAWqaOqaAI",
  "raMfaSIGN KILLER~11730faDIGIT ZEROlaONElaTWOmaHREElaFOURmaIVElaSIXmaEVENlaEIGHTlaNINEfaNUMBER ",
  "TENnaWENTYfaSIGN SMALL SECTIONlgkaRULAIgbYMBOL VfaLETTER CAmbTTobHmbDDobHmbNNmbLL~11800abDOGRA",
  " LETTER oaAnaIoaInaUoaUnaEnaAInaOnaAUnaKAobHnbGobHnbNGnbCobHnbJobHnbNYnbTTpbHnbDDpbHnbNNnbTobH",
  "nbDobHnbNnbPobHnbBobHnbMnbYnbRnbLnbVnbSHobSobnbHnbRRgbVOWEL SIGN AraIsaIraUsaUraVOCALIC R!aRra",
  "EraAIraOraAUgaSIGN ANUSVARAlbVISARGnbRAMlbNUKTgaABBREVIATION SIGN~118A0aaWARANG CITI CAPITAL L",
  "ETTER NGAA#b#aWI#aYU$aA$aO#aII#aUU#aE#aO#aANG#aGA#aKO#aENY#aYUJ#aUC#aENN#aODD#aTTE#aNUNG#aDA#a",
  "AT$aM#aBU#bP#aHIYO$bOL%aRR$bA#aSSUU$aII#aVIYOmaSMALL LETTER NGAAzbzaWIzaYU!aA!aOzaIIzaUUzaEzaO",
  "zaANGzaGAzaKOzaENYzaYUJzaUCzaENNzaODDzaTTEzaNUNGzaDAzaAT!aMzaBUzbPzaHIYO!bOL#aRR!bAzaSSUU!aIIz",
  "aVIYOmbDIGIT ZERsaONEsaTWOtaHREEsaFOURtaIVEsaSIXtaEVENsaEIGHTsaNINEmaNUMBER TENuaWENTYucHIRtdF",
  "OucIFtcSIXucEVENtcEIGHtcNINE~118FFmaOMaaDIVES AKURU LETTER AuaAtaIuaItaUuaUtaE~11909taO~1190Ct",
  "aKAubHtbGubHtbNGtbCubHtbJ~11915tbNYtbTT~11918tbDDvbHtbNNtbTubHtbDubHtbNtbPubHtbBubHtbMtbYubYtb",
  "RtbLtbVtbSHubSubtbHtbLLtbZmbVOWEL SIGN AxaIyaIxaUyaUxaE~11937xaAIxaO~1193BmaSIGN ANUSVARAraCAN",
  "DRABINDUraHALANTAmbVIRAMmaPREFIXED NASAL SIGNmaMEDIAL YAmbINITIAL RmgMEDmbSIGN NUKTmbDOUBLE DA",
  "NDmaGAP FILLERmaEND OF TEXT MARK~11950maDIGIT ZEROsaONEsaTWOtaHREEsaFOURtaIVEsaSIXtaEVENsaEIGH",
  "TsaNINE~119A0aaNANDINAGARI LETTER AuaAtaIuaItaUuaUtaVOCALIC R$aR~119AAtaEtaAItaOtaAUtaKAubHtbG",
  "ubHtbNGtbCubHtbJubHtbNYtbTTvbHtbDDvbHtbNNtbTubHtbDubHtbNtbPubHtbBubHtbMtbYtbRtbLtbVtbSHubSubtb",
  "HtbLLtbRRmbVOWEL SIGN AxaIyaIxaUyaUxaVOCALIC R)aR~119DAxaExaAIxaOxaAUmaSIGN ANUSVARArbVISARGtb",
  "RAMrbAVAGRAHraSIDDHAMmaHEADSTROKEmbVOWEL SIGN PRISHTHAMATRA ~11A00aaZANABAZAR SQUARE LETTER Ar",
  "aVOWEL SIGN I$aUE%a$aE$bO%a$aAI%aU$aREVERSED IxaLENGTH MARKraLETTER KAzbHybGzbHybNGybCzbHybJyb",
  "NYybTT!bHybDD!bHybNNybTzbHybDzbHybNybPzbHybBzbHybMybTS!bHybDZ!bHydzbyb-ybYybRybLybVybSHzbSzbyb",
  "HybKSSraFINAL CONSONANT MARKraSIGN VIRAMAwaCANDRABINDU*a WITH ORNAMENT$owaANUSVARAwbVISARGrbCL",
  "USTER-INITIAL LETTER RzbFINAL LETTER Y;bR;bL;bVraINITIAL HEAD MARKrkCLOSINGraMARK TSHEGwaSHADw",
  "eDOUBLE waLONG TSHEGraINITIAL DOUBLE-LINED HEAD MARKrxCLOSINGraSUBJOINER~11A50aaSOYOMBO LETTER",
  " AiaVOWEL SIGN ItaUEuataEtaOuaEtaAIuaUtaVOCALIC R#aLoaLENGTH MARKiaLETTER KAqbHpbGqbHpbNGpbCqb",
  "HpbJqbHpbNYpbTTrbHpbDDrbHpbNNpbTqbHpbDqbHpbNpbPqbHpbBqbHpbMpbTSrbHpbDZpbZHqbpb-pbYpbRpbLpbVpbS",
  "HqbSqbpbHpbKSSibSIGN JIHVAMULIYndUPADHMANibCLUSTER-INITIAL LETTER R(bL(bSH)biaFINAL CONSONANT ",
  "SIGN G%aK%aNG%aD%aN%aB%aM%aR%aL%aSH&a%a-AibSIGN ANUSVARnbVISARGiaGEMINATION MARKiaSUBJOINERiaM",
  "ARK TSHEGnaSHADneDOUBLE naPLUTAiaHEAD MARK WITH MOON AND SUN AND TRIPLE FLAME>f,aiaTERMINAL MA",
  "RK-1wa2~11AB0aaCANADIAN SYLLABICS NATTILIK HI&aI%aO&aO%aA&aA$aSHRI)aI(aO)aO(aA)aAtaSPEvaIvaOva",
  "AacPAU CIN HAU LETTER tbKtbLtbMtbDtbZtbVtbNGtbHtbGtbKHtbStbBtbCtbTubHtbNtbPHtbRtbFtbCHtbtaEtaI",
  "taOtaUuaAtbItaFINAL PzaKzaTzaMzaNzaLzaWzaNGzaYmaRISING TONE LONGxamaSANDHI GLOTTAL STOPmaRISIN",
  "G TONE LONG FINALyfmgSANDHI GLOTTAL STOPtaTONE LONGxaxa LONG FINALyfmaMID-LEVEL TONEmaGLOTTAL ",
  "STOP VARIANTmaMID-LEVEL TONE LONG FINAL#fmaLOW-FALLING TONE LONG$amaGLOTTAL STOPmaLOW-FALLING ",
  "TONE LONG FINAL%fmgGLOTTAL STOP~11C00aaBHAIKSUKI LETTER AsaAraIsaIraUsaUraVOCALIC R!aRzaL~11C0",
  "AraEraAIraOraAUraKAsbHrbGsbHrbNGrbCsbHrbJsbHrbNYrbTTtbHrbDDtbHrbNNrbTsbHrbDsbHrbNrbPsbHrbBsbHr",
  "bMrbYrbRrbLrbVrbSHsbSsbrbHkbVOWEL SIGN AvaIwaIvaUwaUvaVOCALIC R&aR%aL~11C38vaEvaAIvaOvaAUkbSIG",
  "N CANDRABINDpaANUSVARApbVISARGrbRAMpbAVAGRAHkbDANDleOUBLE DkaWORD SEPARATORkaGAP FILLER-1va2~1",
  "1C50kaDIGIT ZEROqaONEqaTWOraHREEqaFOURraIVEqaSIXraEVENqaEIGHTqaNINEkcNUMBER OraTWOsaHREEraFOUR",
  "saIVEraSIXsaEVENraEIGHTraNINEraTENsaWENTYscHIRrdFOscIFrcSIXscEVENrcEIGHrcNINEkaHUNDREDS UNIT M",
  "ARK~11C70afMARCHEN HEADiaMARK SHADiaLETTER KAqbHpbGpcNpbCqbHpbJpbNYpbTqbHpbDpbNpbPqbHpbBpbMpbT",
  "SrbHpbDZpbWpbZHqbpb-pbYpbRpbLpbSHqbpbHpb~11C92ibSUBJOINED LETTER K!bHzbGzcNzbC!bHzbJzbNYzbT!bH",
  "zbDzbNzbP!bHzbBzbMzbTS#bHzbDZzbWzbZH!b~11CA9zbYzbRzbLzbSH!bzbHzbibVOWEL SIGN AtaItaUtaEtaOiaSI",
  "GN ANUSVARAnaCANDRABINDU~11D00caSARAM GONDI LETTER AwaAvaIwaIvaUwaUvaE~11D08vaAIvaO~11D0BvaAUv",
  "aKAwbHvbGwbHvbNGvbCwbHvbJwbHvbNYvbTTxbHvbDDxbHvbNNvbTwbHvbDwbHvbNvbPwbHvbBwbHvbMvbYvbRvbLvbVvb",
  "SHwbSwbvbHvbLLvbKSSvbJNYvbTRobVOWEL SIGN AzaI!aIzaU!aUzaVOCALIC R~11D3AzaE~11D3CzaAIzaO~11D3Fz",
  "aAUoaSIGN ANUSVARAtbVISARGtbNUKTtbCANDRtbHALANTobVIRAMobREPHpbA-KAR~11D50oaDIGIT ZEROuaONEuaTW",
  "OvaHREEuaFOURvaIVEuaSIXvaEVENuaEIGHTuaNINE~11D60aaGUNJALA GONDI LETTER AwaAvaIwaIvaUwaU~11D67v",
  "aEEvaAI~11D6AvaOOvaAUvaYAvbVvbBwbHvbMvbKwbHvbTwbHvbLvbGwbHvbDwbHvbNvbCwbHvbTTxbHvbLLvbJwbHvbDD",
  "xbHvbNGvbPwbHvcvbRvbSobVOWEL SIGN AzaI!aIzaU!aU~11D90zaEEzaAI~11D93zaOOzaAUoaSIGN ANUSVARAtbVI",
  "SARGobVIRAMoaOM~11DA0oaDIGIT ZEROuaONEuaTWOvaHREEuaFOURvaIVEuaSIXvaEVENuaEIGHTuaNINE~11EE0aaMA",
  "KASAR LETTER KApbGpcNpbPpbBpbMpbTpbDpbNpbCpbJpbNYpcpbRpbLpbVpbSpbibANGKiaVOWEL SIGN ItaUtaEtaO",
  "iaPASSIMBANGiaEND OF SECTION~11FB0aaLISU LETTER YHA~11FC0aaTAMIL FRACTION ONE THREE-HUNDRED-AN",
  "D-TWENTIETHtfONE-HUNDRED-AND-SIXtfEIGHtcSIXTY-FOURtcFORTIEtaTHIRTY-SECONDpaTHREE EIGHTIETHSvdS",
  "IXTY-FOURpaONE TWENTIETHtaSIXTEENTH-1%a2taTENTHtcEIGHpaTHREE TWENTIETHSvdSIXTEENpaONE FIFTHtaQ",
  "UARTERtaHALF-1ya2paTHREE QUARTERSpaDOWNSCALING FACTOR KIIZHgaSIGN NELlaCEVITUlbAAZHAAKKleUZHlh",
  "MUUVlaKURUNIlaPATHAKKUlaMUKKURUNIlaKAACUlaPANAMmaONlbVARAAKAlaPAARAMlaKUZHIlbVELgaWET CULTIVAT",
  "ION SIGNgrDRYgfLANDgfSALT PANgfTRADITIONAL CREDITsfNUMBERgfCURRENTgfAND ODDgfSPENTgfTOTALgfIN ",
  "POSSESSIONgfSTARTING FROMhaIGN MUTHALIYAlbVAKAIYARA~11FFFgaPUNCTUATION END OF TEXTaaCUNEIFORM ",
  "SIGN Aqa TIMES AxaBADxaGAN2 TENUxaHAxaIGIxaLAGAR GUNUxaMUSHxaSAGqa2qaBra TIMES ASH2yaDUN3 GUNU",
  "yaGAL!aN2 TENUyaHAyaIGI GUNUzaMINyaLAGAByaSHESHyaU PLUS U PLUS UsbGUNra2sa TIMES BALAGzaGAN2 T",
  "ENUzaME PLUS ENzaSHA3zaTAK4qaDqaKra TIMES ERIN2yaSHITA PLUS GISHqaLra TIMES ALyaDIM2yaGISHyaHA",
  "yaKAD3zaIyaSHEyaUSHraANraEPHqaMARta TIMES SHEqaNra OVER ANsaTHREE TIMESsaPLUS NAGA OPPOSING AN",
  " PLUS NAGA$aSQUAREDraSHEqaPINqaRADta TIMES KURraKABqaSAL2raHsa ZIDA TENUtgKABtaOVER ASH TUG2 O",
  "VER TUG2 TUG2 OVER TUG2 PAP$aOVER ASH.a CROSSING ASH OVER ASH OVER ASHsa2saGABpaBAraDraG3raHAR",
  "2raLsa OVER BALsaAGraRsaA2qaIra TIMES AyaGARyaIGI GUNUqbra OVER BU AB!aUNsaCROSSING BUraLUGua ",
  "OVER BULUGraRsa2paDAraGsa KISIM5 TIMES A PLUS MASH*aMAR)aBALAG*aI)aGA+a PLUS MASH*aI+aR2*aUD)a",
  "HA)aIR+a PLUS LU)aKAK)aLA*aU+a PLUS MASH2+aM)aNE)aPAP PLUS PAP)aSI)aTAK4)aU2 PLUS GIR2*aSHraMr",
  "aRsaA3ta4qaIraBraMsa TIMES SHEsa2raNsa KASKAL U GUNU DISHrcqaUra OVER DUsbGUNsaSHESHIGraBsa TI",
  "MES ESH2sbraGsaUDraHraNsa3ta GUNUya GUNUsa4raR2paEqa TIMES PAPraOVER E NUN OVER NUNqa2ra TIMES",
  " A PLUS HA PLUS DAyaGARyaMIyaSALzaHEyaUqaDINqaGIRqaLqaNra TIMES GAN2$a TENUyaMEsaCROSSING ENsh",
  "OPPOsaSQUAREDqaRENraIN2qbSHqaZENta TIMES A#a PLUS LAL.a TIMES LAL#aN!aBAD!aDUN3 GUNU,a GUNU!aH",
  "A$a GUNU!fIGI!aKASKAL)a SQUARED#aU3!aLA$aL TIMES LAL#aI#aU!aU2#aDpaGAra GUNUra2sa TIMES A PLUS",
  " DA PLUS HA)c)aIGI!aB2 TENU PLUS TAB!aN!aSH$a2 PLUS GALzaBAD#aR PLUS RA!aUR$a PLUS RAzbD!aI#aM",
  " TIMES SHE!aUBzaEL#a PLUS LA!aN#a TIMES GAN2 TENUzj#aR!aI#a4$a PLUS A#aR2 PLUS SUzaHA PLUS LU ",
  "PLUS ESH2#aL$a PLUS LA!aI PLUS LI!aUB2zaIGI GUNU!aSH PLUS HU PLUS ASHzaKAK#aSKAL!aID$a PLUS LA",
  "L!aU3 PLUS ANzaLAzaME PLUS EN!aIzaNUN$a OVER NUNzaPAzaSAL#aR!aHE$a PLUS TUR#aID!aUMzaTAK4zaU!a",
  "D#a PLUS DUtaOVER GA2raBAta CROSSING GABAraDsa OVER GAD GAR OVER GARraLsa GAD OVER GAD GAR OVE",
  "R GARsaAMrbraNsa2ta TENUuaOVER GAN2ufCROSSINGraRsa3raSHANqbESHTIwa TIMES KURqaIra TIMES EyaUsa",
  "CROSSING GIra4sa OVER GI4teCROSSINGraDIMraR2ta GUNUsa3ta TIMES A PLUS IGI!aGAN2 TENU!aIGI!dLU ",
  "PLUS !aPAraSALsaHta CROSSING GISHuaTIMES BAD!aTAK4vaENUqbra CROSSING GUra2sa TIMES KAK$a TIMES",
  " IGI GUNUzaNUNzaSAL PLUS TUG2taGUNUraDsa TIMES A PLUS KURzdtaOVER GUD LUGALrbraMsa TIMES SHEra",
  "Rsa7saUNtaSHpaHAra TENUscGUraLqaIra TIMES ASH#a2yaBADyaDISHyaGADyaKINybNUyaSHEyaUqbraB2ta TIME",
  "S AN!aHAL!cKASK!aLISH!aUDraL2paIqa AqaBqaDIMta OVER IDIM BUR&aSQUAREDqaGraIsa DIBtaRItaOVER IG",
  "I SHIR OVER SHIR UD OVER UDtaGUNUqaLra TIMES GAN2 TENUra2qaMra TIMES TAK4saCROSSING IMshOPPOsa",
  "SQUAREDraINqbqaRqaSHpaKAra TIMES AzaD!a PLUS KU3zaSH2yaBAD!aLAG!aRzaIyaERIN2zbSHyaGA!aL!aN2 TE",
  "NU!aR#a PLUS SHA3 PLUS AzaI!aR2!aSH PLUS SAR%aCROSSING GISHzaU!aR7yaIGIzaMyaKAKzaI!aDyaLIzaUya",
  "ME!a PLUS DU)aGI)aTEzaI!a PLUS NUNUZyaNEzaUNyaPIyaRUyaSA!aRzaHA!aE!aID!aUzaIGzaUHURybTAyaUza2z",
  "aDzaMUM TIMES PAzaSHyaZIra2sa CROSSING KA2raBraD2sa3sa4sa5ta OVER KAD5raKsa TIMES IGI GUNUraLs",
  "a TIMES BADtaCROSSING KALraM2sa4raSKALva LAGAB TIMES U OVER LAGAB TIMES Uw)OVER KASKAL qaESH2q",
  "aIra TIMES BADyaUzaDrbraNraSALsaHsaIM5va OVER KISIM5qaUra OVER HI TIMES ASH2 KU OVER HI TIMES ",
  "ASH2ra3ra4sa VARIANT FORMra7raLsa GUNUraNraRsa OPPOSING KURraSHU2qaWU318paLAraGABua TIMES A$a ",
  "PLUS DA PLUS HA+aGAR+aLAL$b$aN$aSH ZIDA TENU#aBAD$aI#aDAR#aEN#aGA%aR$aUD&a PLUS GUD#aHA%aL$aI ",
  "TIMES NUN#aIGI GUNU$aM%a PLUS HA,aLU#aKI%aN$aU3%aL&a PLUS HI PLUS A#aLAGAB$aISH$aU%aL#aME%a PL",
  "US EN$aUSH#aNE#aSHE PLUS SUM%aITA PLUS GISH PLUS ERIN2[aTENU%aU2(a PLUS SHU2$aUM#aTAG%aK4$aE P",
  "LUS A PLUS SU PLUS NA#aU$a PLUS A+aU PLUS U$a2 PLUS ASH$aD$aSHvaSQUAREDtaRua TIMES SHE&a PLUS ",
  "SUMvaGUNUza OVER LAGAR GUNU SHEraHSHUraLsa TIMES LALraMsa TIMES KUR$a PLUS RUqaIraLraMMU2raSHq",
  "aUra TIMES BADra2sa TIMES ALzaBADzaESH2%a TENUzgGANzaHI TIMES BADzaIMzaKAD2$a3%a PLUS ASH!aIza",
  "LA PLUS ASH#aGABzaME PLUS ENzaNE!aUzaSI PLUS ASH#aK2 PLUS BUzaTUG2uaENUtaCROSSING LU2tiOPPOtaS",
  "QUAREDuaHESHIGra3raGALua OVER LUGALwgPPOSINGvaSHESHIGraHraLraMsa OVER LUM#a GAR OVER GARpaMAra",
  " TIMES TAK4saGUNUra2raHraRraSHta2qaEraSqaIraNqaUra OVER MUraGsa GUNUraNSUBraRGU2raSHta TIMES A",
  "!aKUR!aZAuaOVER MUSH%a TIMES A PLUS NAuaCROSSING MUSHta3ua TIMES A$a PLUS DI#cvaGUNUpaNAra2raG",
  "Ata INVERTEDuaTIMES SHU TENUuaOPPOSING NAGAtaRraM NUTILLUsasa2qaEra TIMES AyaUDsaSHESHIGqaIra ",
  "TIMES Era2raMsa TIMES GAN2 TENU#hR PLUS GAraNDA2va TIMES AN%aSH(a PLUS ASH$aGUD$aME PLUS GAN2 ",
  "TENU$aNE%aUN$aSHE(a PLUS A AN;aSH>a PLUS ASH$jU2%craSAGqaUra11raNsa LAGAR TIMES GAR(aMASH(aSAL",
  "+a OVER NUN LAGAR TIMES SAL(aUSHtaTENUtaOVER NUNteCROSSING(a LAGAR OVER LAGARsaUZua AB2 TIMES ",
  "ASHGAB(aBI(aDUG(aGUD(aIGI GUNU(aKAD3(aLA(aNE(aSILA3(aU2vaKISIM5 TIMES BI.a UpaPAraDraNraPqaESH",
  "2qaIra TIMES AzaByaBIzaUyaEyaIzaByaUza2saCROSSING PIraRIGua TIMES KAL#aUD#aZAvaOPPOSING PIRIGp",
  "aRAraBqaIqaUpaSAraG NUTILLUsasa TIMES AzaDU#aBzaHAzaKAK!aURzaLUMzaMIzaNUNzaSAL!aHIDzaTABzaU2!a",
  "B!aM!aR!aSHtaOVER SAGtaGUNUraLsa LAGAB TIMES ASH2rbNGAraRqaHAsa3ta TIMES A!aBAD!aGISH!aNE!aSHU",
  "2!aTUR!aU#a PLUS Asa6sbBsaR2raEsa HUtaOVER SHE GAD OVER GAD GAR OVER GAR$nTAB OVER TABsaG9saNs",
  "aSHua2uaLAMraIDta TIMES A!aIMsbta TIMES A!aBAL#aULUG!aDIN!aGAR!aIGI%a GUNU!aKUSHU2!aLUL!aMUG!a",
  "SALsaNIGsaRta TENUuaOVER SHIR BUR OVER BURsaTAraUsa OVER INVERTED SHUsa2saBURqaIra GUNUraGsa4t",
  "a OVER SIG4 SHU2rbKraLA3qaUra OVER SUraDsa2raHURraMsaASHraRsa9paTAra ASTERISKsaTIMES HIybMsaGU",
  "NUraBsa OVER TAB NI OVER NI DISH OVER DISHtaSQUAREDraGsa TIMES BIzaGUDzaSHE#aUzaTUG2zaUDraK4ra",
  "RqaEra GUNUqaIra TENUraLraRsa TIMES TAK4taOVER TIR#a GAD OVER GAD GAR OVER GARqaUraG2raKraMraR",
  "sa OVER TUR ZA OVER ZApaUqa GUDraU UraOVER U PA OVER PA GAR OVER GARybSUR OVER SUyaU REVERSED ",
  "OVER U REVERSEDqa2qaBqaDra KUSHU2saTIMES BADyaMIyaU PLUS U PLUS U<a GUNUsesaSHESHIGza TIMES BA",
  "DraUGqaMra TIMES LAGAByaME PLUS DAyaSHA3yaUraBINraUMta TIMES KASKAL!aPAqaNra GUNUqaRra CROSSIN",
  "G URsaSHESHIGra2sa TIMES A PLUS HA)bN!aLzaHAzaNUNzaU2#a PLUS ASH*aBIra4raIsa3raUsa TIMES A!aSH",
  "GABzaBARzaDUNzaGA#aL#aN2 TENU#aR!aUzaHAzaIGI!aM!aSHzaKIzaLUMzaMINzaPAzaSHE!aIG4zaTUzaU PLUS GU",
  "D!b!aRUDAscua TIMES UqaSHsa TIMES AzaKU#aRzaTAK4saXsa2saUMXqaTUKIqaZ3sa TIMES KASKALraUpaZAra ",
  "TENUsaSQUARED TIMES KURraGraMXqaE2qaIra OVER ZIra3raBsa KABA TENUraGraZ2qaUra5sa TIMES AraBURr",
  "aMpaKAP ELAMITEpaAB TIMES NUNra2 TIMES AqaMAR TIMES KUGpaDAG KISIM5 TIMES U2 PLUS MASHsa3qaISH",
  " PLUS SHUqaUB TIMES SHEpaEZEN TIMES GUD!aSHEpaGA2 TIMES AN PLUS KAK PLUS A!aSH2qbE2qaIGpaHUSHp",
  "aKA TIMES ANSHEzaSH3yaGISHzaUDyaHI TIMES ASH2yaLUMyaPAyaSHULyaTUyaUR2paLAGAB TIMES GIqaU2 SHES",
  "HIG TIMES BADtaTIMES ESH2 PLUS LALzaSHUpaMESHqaUSH3 TIMES ZApaNA4qaINsa9saDA2 TIMES BAL$aGIqaU",
  "11 ROTATED NINETY DEGREESpaPESH2 ASTERISKqaIR2paSAG TIMES IGI GUNUpaTI2paUM TIMES MEqa U~12400",
  "kaNUMERIC SIGN TWO ASHyeHREExeFOURyeIVExeSIXyeEVENxeEIGHTxeNINExcTHREE DIxfFOURyfIVExfSIXyfEVE",
  "NxfEIGHTxfNINExaFOUR UycIVExcSIXycEVENxcEIGHTxcNINExaONE GESH2xgTWOygHREExgFOURygIVExgSIXygEVE",
  "NxgEIGHTxgNINExaONE GESHUxgTWOygHREExgFOURygIVExaTWO SHAR2ygHREE+a VARIANT FORMxaFOUR SHAR2ygI",
  "VExgSIXygEVENxgEIGHTxgNINExaONE SHARUxgTWOygHREE+a VARIANT FORMxaFOUR SHARUygIVExaSHAR2 TIMES ",
  "GAL PLUS DISH]aMINxaONE BURUxfTWOyfHREE*a VARIANT FORMxaFOUR BURUyfIVExaTHREE VARIANT FORM ESH",
  "16^a21xaFOUR VARIANT FORM LIMMU_a4_a A|aBxaSIX VARIANT FORM ASH9yaEVEN VARIANT FORM IMIN3_a A|",
  "aBxaEIGHT VARIANT FORM USSU_a3xaNINE VARIANT FORM ILIMMU|a3|a4|a AxaTWO ASH TENUyjHREExjFOURyj",
  "IVExjSIXxaONE BAN2xfTWOyfHREExfFOUR)a VARIANT FORMyaIVE BAN2)a VARIANT FORMxaNIGIDAMIN%aESHxaO",
  "NE ESHE3xgTWOxaONE THIRD DISHxfTWO THIRDSxgFIVE SIXTHxaONE THIRD VARIANT FORM AxpTWO THIRDSxaO",
  "NE EIGHTH ASH#eQUARTERybLD ASSYRIAN ONE SIXT>aQUARTERybNE QUARTER GU#eHALFxaELAMITE ONE THIRD(",
  "aTWO THIRDS(aFORTY)cIFxaFOUR U VARIANT FORMypIVExpSIXypEVENxpEIGHTxpNINE~12470kaPUNCTUATION SI",
  "GN OLD ASSYRIAN WORD DIVIDER#aVERTICAL COLON#iDIAGON.fTRI.fQUAD~12480kaSIGN AB TIMES NUN TENUy",
  "aSHU2qbD TIMES ESHpaBAD TIMES DISH TENUraHAR2 TIMES AB2$aNI$aZAqaU OVER BU TIMES NA2paDA TIMES",
  " TAK4raG TIMES KURqaIM TIMES IGIzaU U Usa2 TIMES UDqaUG TIMES ANSHE!aSH$a AT LEFTzaDIN!bUzaERI",
  "N2zaGA!aI#aR2 GUNU#aSHzaHA!aIzaIGI GUNUzaKASKAL!aUR#aSHU2(a PLUS KASKALzaLAK-020#aM$a TIMES KU",
  "R!aUH PLUS GISHzcMA!aES!aIzbNzbPzaSHE!aI GUNUpaE2 TIMES KURyaPAPqaRIN2 XqaSH2 CROSSING ESH2qaZ",
  "EN SHESHIG TIMES ASH+aHI+aIGI GUNU+aLA.aL+aME.aS+aSUuipaGA2 TIMES BAHAR2zaDIM GUNU!fUG TIMES I",
  "GI,aKASKALzaERENzaGA#aR PLUS DI+aNEzaHA PLUS AzaKUSHU2 PLUS KASKALzaLAM$a TIMES KUR!aUHzbMUSza",
  "NE#a PLUS E2*aGIzaSHIMzaZIZ2raBA ROTATED NINETY DEGREESqaESHTIN TIMES UqaISH TIMES GISH CROSSI",
  "NG GISHqaU2 TIMES IGI GUNUraD PLUS GISH TIMES TAK4paHA TENU GUNUqaI TIMES ASH OVER HI TIMES AS",
  "HpaKA TIMES BUyaKAyaU U UzaRpaLAGAB TIMES ZU OVER ZUraK-003ua21va5ua30ub5va1ua62ua79 OVER LAK-",
  "079 GUNUua80va1 OVER LAK-081ua92ta130ua42ta210va9ua20va5va8ub3ua65va6ta343va7va8ua83va4ua90ta4",
  "41va9wa TIMES GU%aIGI%aPAP PLUS LU3;dPAP PLUS %aU2 PLUS BAua50va7ua70ua83ua90va2va3va5ta550ta6",
  "08ua17wa TIMES ASH%aBAD%aDUN3 GUNU GUNU%aKU3%aLA%aTAR&aE%aU2&aD&aRUDAua36ua48wa TIMES DUB%aGA%",
  "aIGI)a GUNU%aNI%aPAP PLUS PAP PLUS LU3%aSHESH PLUS KI%aUD&aRUDAta724ua49qaU2 GUNU TIMES ASHtcT",
  "IMES DIzaHALzaPAP$a PLUS PAP PLUS LU3zaTAK4paMI PLUS ZA7qaUSH OVER MUSH TIMES GA.aKAKpaNINDA2 ",
  "TIMES DIM GUNU$aGISH%aUL$aHI$aKESH2$aLAK-050$aMASH$aPAP PLUS PAP$aU%a PLUS U%aRUDApbSAG GUNU T",
  "IMES HtaTIMES ENzaSHE AT LEFTzaTAK4qaHA6 TENUraE OVER SHEtaPLUS HUB2ybNAMyaSARraU2 PLUS DUG TI",
  "MES NIzaE2 TIMES ANqaI TIMES TAK4paTAK4 PLUS SAGqaUM TIMES GAN2 TENUzaTHREE DISHpaUR2 INVERTED",
  "tbTIMES UraU TIMES DARA3zaLAK-668!aU3paZA7qaU OVER ZU PLUS SARra5 TIMES THREE DISH TENU~12F90b",
  "aYPRO-MINOAN SIGN CM001wa2wa4wa5wa6wa7wa8wa9va10wa1wa2xaBwa3wa5wa7wa9va21wa3wa4wa5wa6wa7wa8wa9",
  "va30wa3wa4wa5wa6wa7wa8wa9va40wa1wa4wa6wa7wa9va50wa1wa2wa3wa4wa5wa6wa8wa9va60wa1wa2wa3wa4wa6wa7",
  "wa8wa9va70wa1wa2wa3wa4wa5xaBwa6wa8wa9va80wa1wa2wa3wa4wa5wa6wa7wa8wa9va90wa1wa2wa4wa5wa6wa7wa8w",
  "a9ua100wa1wa2wa3wa4wa5wa7wa8wa9va10wa2wa4ua301wa2~13000aaEGYPTIAN HIEROGLYPH A001xa2xa3xa4xa5y",
  "aAxa6yaAyaBxa7xa8xa9wa10xa1xa2xa3xa4yaAxa5xa6xa7yaAxa8xa9wa20xa1xa2xa3xa4xa5xa6xa7xa8xa9wa30xa",
  "1xa2yaAxa3xa4xa5xa6xa7xa8xa9wa40yaAxa1xa2yaAxa3yaAxa4xa5yaAxa6xa7xa8xa9wa50xa1xa2xa3xa4xa5xa6x",
  "a7xa8xa9wa60xa1xa2xa3xa4xa5xa6xa7xa8xa9wa70uaB001xa2xa3xa4xa5yaAxa6xa7xa8xa9uaC001xa2yaAyaByaC",
  "xa3xa4xa5xa6xa7xa8xa9wa10yaAxa1xa2xa3xa4xa5xa6xa7xa8xa9wa20xa1xa2xa3xa4uaD001xa2xa3xa4xa5xa6xa",
  "7xa8yaAxa9wa10xa1xa2xa3xa4xa5xa6xa7xa8xa9wa20xa1xa2xa3xa4xa5xa6xa7yaAxa8xa9wa30xa1yaAxa2xa3xa4",
  "yaAxa5xa6xa7xa8xa9wa40xa1xa2xa3xa4xa5xa6yaAxa7xa8yaAxa9wa50yaAyaByaCyaDyaEyaFyaGyaHyaIxa1xa2ya",
  "Axa3xa4yaAxa5xa6xa7xa8xa9wa60xa1xa2xa3xa4xa5xa6xa7yaAyaByaCyaDyaEyaFyaGyaHuaE001xa2xa3xa4xa5xa",
  "6xa7xa8yaAxa9yaAwa10xa1xa2xa3xa4xa5xa6yaAxa7yaAxa8xa9wa20yaAxa1xa2xa3xa4xa5xa6xa7xa8yaAxa9wa30",
  "xa1xa2xa3xa4yaAxa6xa7xa8uaF001yaAxa2xa3xa4xa5xa6xa7xa8xa9wa10xa1xa2xa3yaAxa4xa5xa6xa7xa8xa9wa2",
  "0xa1yaAxa2xa3xa4xa5xa6xa7xa8xa9wa30xa1yaAxa2xa3xa4xa5xa6xa7yaAxa8yaAxa9wa40xa1xa2xa3xa4xa5yaAx",
  "a6yaAxa7yaAxa8xa9wa50xa1yaAyaByaCxa2xa3uaG001xa2xa3xa4xa5xa6yaAxa7yaAyaBxa8xa9wa10xa1yaAxa2xa3",
  "xa4xa5xa6xa7xa8xa9wa20yaAxa1xa2xa3xa4xa5xa6yaAxa7xa8xa9wa30xa1xa2xa3xa4xa5xa6yaAxa7yaAxa8xa9wa",
  "40xa1xa2xa3yaAxa4xa5yaAxa6xa7xa8xa9wa50xa1xa2xa3xa4uaH001xa2xa3xa4xa5xa6yaAxa7xa8uaI001xa2xa3x",
  "a4xa5yaAxa6xa7xa8xa9yaAwa10yaAxa1yaAxa2xa3xa4xa5uaK001xa2xa3xa4xa5xa6xa7xa8uaL001xa2yaAxa3xa4x",
  "a5xa6yaAxa7xa8uaM001yaAyaBxa2xa3yaAxa4xa5xa6xa7xa8xa9wa10yaAxa1xa2yaAyaByaCyaDyaEyaFyaGyaHxa3x",
  "a4xa5yaAxa6yaAxa7yaAxa8xa9wa20xa1xa2yaAxa3xa4yaAxa5xa6xa7xa8yaAxa9wa30xa1yaAxa2xa3yaAyaBxa4xa5",
  "xa6xa7xa8xa9wa40yaAxa1xa2xa3xa4uaN001xa2xa3xa4xa5xa6xa7xa8xa9wa10xa1xa2xa3xa4xa5xa6xa7xa8yaAya",
  "Bxa9wa20xa1xa2xa3xa4xa5yaAxa6xa7xa8xa9wa30xa1xa2xa3yaAxa4yaAxa5yaAxa6xa7yaAxa8xa9wa40xa1xa2vaL",
  "001ya2ya3ya4ya5zaAya6ya7ya8ya9xa10ya1ya2ya3ya4ya5ya6ya7zaAya8ya9xa20vaU001ya2ya3ya4ya5ya6ya7ya",
  "8ya9xa10zaAya1zaAya2ya3ya4ya5ya6ya7ya8zaAya9xa20ya1ya2zaAuaO001yaAxa2xa3xa4xa5yaAxa6yaAyaByaCy",
  "aDyaEyaFxa7xa8xa9wa10yaAyaByaCxa1xa2xa3xa4xa5xa6xa7xa8xa9yaAwa20yaAxa1xa2xa3xa4yaAxa5yaAxa6xa7",
  "xa8xa9yaAwa30yaAxa1xa2xa3yaAxa4xa5xa6yaAyaByaCyaDxa7xa8xa9wa40xa1xa2xa3xa4xa5xa6xa7xa8xa9wa50y",
  "aAyaBxa1ubP00yaAxa2xa3yaAxa4xa5xa6xa7xa8xa9wa10xa1ubQ00xa2xa3xa4xa5xa6xa7uaR001xa2yaAxa3yaAyaB",
  "xa4xa5xa6xa7xa8xa9wa10yaAxa1xa2xa3xa4xa5xa6yaAxa7xa8xa9wa20xa1xa2xa3xa4xa5xa6xa7xa8xa9uaS001xa",
  "2yaAxa3xa4xa5xa6yaAxa7xa8xa9wa10xa1xa2xa3xa4yaAyaBxa5xa6xa7yaAxa8xa9wa20xa1xa2xa3xa4xa5xa6yaAy",
  "aBxa7xa8xa9wa30xa1xa2xa3xa4xa5yaAxa6xa7xa8xa9wa40xa1xa2xa3xa4xa5xa6uaT001xa2xa3yaAxa4xa5xa6xa7",
  "yaAxa8yaAxa9yaAwa10xa1yaAxa2xa3xa4xa5xa6yaAxa7xa8xa9wa20xa1xa2xa3xa4xa5xa6xa7xa8xa9wa30xa1xa2y",
  "aAxa3yaAxa4xa5xa6uaU001xa2xa3xa4xa5xa6yaAyaBxa7xa8xa9wa10xa1xa2xa3xa4xa5xa6xa7xa8xa9wa20xa1xa2",
  "xa3yaAxa4xa5xa6xa7xa8xa9yaAwa30xa1xa2yaAxa3xa4xa5xa6xa7xa8xa9wa40xa1xa2uaV001yaAyaByaCyaDyaEya",
  "FyaGyaHyaIxa2yaAxa3xa4xa5xa6xa7yaAyaBxa8xa9wa10xa1yaAyaByaCxa2yaAyaBxa3xa4xa5xa6xa7xa8xa9wa20y",
  "aAyaByaCyaDyaEyaFyaGyaHyaIyaJyaKyaLxa1xa2xa3yaAxa4xa5xa6xa7xa8yaAxa9yaAwa30yaAxa1yaAxa2xa3yaAx",
  "a4xa5xa6xa7yaAxa8xa9wa40yaAuaW001xa2xa3yaAxa4xa5xa6xa7xa8xa9yaAwa10yaAxa1xa2xa3xa4yaAxa5xa6xa7",
  "yaAxa8yaAxa9wa20xa1xa2xa3xa4yaAxa5uaX001xa2xa3xa4yaAyaBxa5xa6yaAxa7xa8yaAuaY001yaAxa2xa3xa4xa5",
  "xa6xa7xa8uaZ001xa2yaAyaByaCyaDxa3yaAyaBxa4yaAxa5yaAxa6xa7xa8xa9wa10xa1xa2xa3xa4xa5yaAyaByaCyaD",
  "yaEyaFyaGyaHyaIxa6yaAyaByaCyaDyaEyaFyaGyaHuaAA001ya2ya3ya4ya5ya6ya7zaAzaBya8ya9xa10ya1ya2ya3ya",
  "4ya5ya6ya7ya8ya9xa20ya1ya2ya3ya4ya5ya6ya7ya8ya9xa30ya1ya2~13430uaVERTICAL JOINERujHORIZONTuaIN",
  "SERT AT TOP START&gBOTTOM&aTOP END&eBOTTOMuaOVERLAY MIDDLEuaBEGIN SEGMENTuiEND~14400aaANATOLIA",
  "N HIEROGLYPH A001ya2ya3ya4ya5ya6ya7ya8ya9xa10zaAya1ya2ya3ya4ya5ya6ya7ya8ya9xa20ya1ya2ya3ya4ya5",
  "ya6zaAya7ya8ya9xa30ya1ya2ya3ya4ya5ya6ya7ya8ya9zaAxa40ya1zaAya2ya3ya4ya5zaAya6zaAzaBya7ya8ya9xa",
  "50ya1ya2ya3ya4ya5ya6ya7ya8ya9xa60ya1ya2ya3ya4ya5ya6zaAzaBzaCya7ya8ya9xa70ya1ya2ya3ya4ya5ya6ya7",
  "ya8ya9xa80ya1ya2ya3ya4ya5ya6ya7ya8ya9xa90ya1ya2ya3ya4ya5ya6ya7zaAya8zaAya9wa100zaAya1zaAya2zaA",
  "ya3ya4zaAzaBzaCya5zaAzaBya6ya7zaAzaBzaCya8ya9xa10zaAzaBya1ya2ya3ya4ya5zaAya6ya7ya8ya9xa20ya1ya",
  "2ya3ya4ya5zaAya6ya7ya8ya9xa30ya1ya2ya3ya4ya5zaAya6ya7ya8ya9xa40ya1ya2ya3ya4ya5ya6ya7ya8ya9xa50",
  "ya1ya2ya3ya4ya5ya6ya7ya8ya9xa60ya1ya2ya3ya4ya5ya6ya7ya8ya9xa70ya1ya2ya3ya4ya5ya6ya7ya8ya9xa80y",
  "a1ya2ya3ya4ya5ya6ya7ya8ya9xa90ya1ya2ya3ya4ya5ya6ya7ya8ya9wa200ya1ya2zaAzaBya3ya4ya5ya6ya7zaAya",
  "8ya9zaAxa10ya1ya2ya3ya4ya5zaAya6zaAya7ya8ya9xa20ya1ya2ya3ya4ya5ya6ya7zaAya8ya9xa30ya1ya2ya3ya4",
  "ya5ya6ya7ya8ya9xa40ya1ya2ya3ya4ya5ya6ya7ya8ya9xa50ya1ya2ya3ya4ya5ya6ya7ya8ya9xa60ya1ya2ya3ya4y",
  "a5ya6ya7zaAya8ya9xa70ya1ya2ya3ya4ya5ya6ya7ya8ya9xa80ya1ya2ya3ya4ya5ya6ya7ya8ya9zaAxa90ya1ya2ya",
  "3ya4zaAya5ya6ya7ya8ya9zaAwa300ya1ya2ya3ya4ya5ya6ya7ya8ya9zaAxa10ya1ya2ya3ya4ya5ya6ya7ya8ya9xa2",
  "0ya1ya2ya3ya4ya5ya6ya7ya8ya9zaAxa30ya1ya2AzaBzaCya3ya4ya5ya6zaAzaBzaCya7ya8ya9xa40ya1ya2ya3ya4",
  "ya5ya6ya7ya8ya9xa50ya1ya2ya3ya4ya5ya6ya7ya8ya9zaAxa60ya1ya2ya3ya4zaAya5ya6ya7ya8zaAya9xa70ya1z",
  "aAya2ya3ya4ya5ya6ya7ya8ya9xa80ya1zaAya2ya3 RA OR RIzaAya4ya5ya6zaAya7ya8ya9xa90ya1ya2ya3 EIGHT",
  "ya4ya5ya6ya7ya8ya9wa400ya1ya2ya3ya4ya5ya6ya7ya8ya9xa10 BEGIN LOGOGRAM MARKzoA ENDya1ya2ya3ya4y",
  "a5ya6ya7ya8ya9xa20ya1ya2ya3ya4ya5ya6ya7ya8ya9xa30ya1ya2ya3ya4ya5ya6ya7ya8ya9xa40ya1ya2ya3ya4ya",
  "5ya6ya7ya8ya9xa50zaAya1ya2ya3ya4ya5ya6ya7zaAya8ya9xa60ya1ya2ya3ya4ya5ya6ya7ya8ya9xa70ya1ya2ya3",
  "ya4ya5ya6ya7ya8ya9xa80ya1ya2ya3ya4ya5ya6ya7ya8ya9xa90ya1ya2ya3ya4ya5ya6ya7wa501ya2ya3ya4ya5ya6",
  "ya7ya8ya9xa10ya1ya2ya3ya4ya5ya6ya7ya8ya9xa20ya1ya2ya3ya4ya5ya6ya7ya8ya9xa30~16800aaBAMUM LETTE",
  "R PHASE-A NGKUE MFONvdGBIEE vaPON MFON PIPAEMGBIEE.aBAvaNAA MFONvaSHUENSHUETvaTITA MFONvgNZvaS",
  "HINDA PA NJIvaPON PA NJI PIPAEMGBIEE;aBAvaMAEMBGBIEEvaTU MAEMBAvaNGANGUvaMAEMVEUXxaNSUAEwaVEUA",
  "ENGAMvcSEUNYvaNTOQPENvaKEUKEUTNDAvaNKINDIvaSUUvaNGKUENZEUMvaLAPAQwaET KUTvaNTAP MFAAvaMAEKEUPv",
  "aPASHAEvcGHEUAERvcPAMSHvaMON NGGEUAETvbNZUN MEUvaU YUQ NAEvcGHEUAEGHEUvaNTAP NTAAvbSISvcMGBAwa",
  "EUNJOMNDEUQwcOOMPvaKAFAvbPA LEERAEWvkNDvaPETvaMAEMKPENvaNIKAvaPUPvbTUAEveLvaSONJAMvaTEUTEUWENv",
  "aMAENYIvaKETvcNDAANGGEUAvaKUOQvaMOOMEUTvaSHUMvaLOMMAEvaFIRIvaROMvaKPOQvcSvaMAP PIEETvaSHIRAEva",
  "NTAPvaSHOQ NSHUT YUMvaNYIT MONGKEUAEQvaPAARAEvfNKvaUNKNOWNvbNGGEvaMAESIvaNJAMvaMBANYIvaNYETvaT",
  "EUAENvaSOTvaPAAMvaNSHIEEvaMAEMvaNYIvaKAQvaNSHAvaVEEvaLUvaNENwaAQvcMBtaB NSHUETvaTU MAEMGBIEEvd",
  "SwaET TUvaLOM NTEUMvaMBA MAELEEvaKIEEMvaYEURAEvdMBAAvaKAMvaPEESHIvaYAFU LEERAEWAvaLAM NSHUT NY",
  "AMvaNTIEE SHEUOQwaDU NJAAvaGHEUGHEUAEMvaPITvaTU NSIEEvaSHET NJAQyaUAEQTUvaMFON TEUAEQwaBIT MBA",
  "AKETvaNYI NTEUMvaKEUPUQvaGHEUGHENvaKEUYEUXvaLAANAEvaPARUMvcVEvaNGKINDI MVOPxaGEU MBUvaWUAETvaS",
  "AKEUAEvaTAAMvaMEUQvbNGGUO#a LARGEvaMFIYAQvaSUEvaMBEURIwaONTIEENvaNYAEMAEvaPUNGAAMvaMEUT NGGEET",
  "vaFEUXvaMBUOQvaFEEvaKEUAEMvaMA NJEUAENA!bUQvaLETvaNGGAAMwaSENvaMAvaKIQvaNGOMtaC NGKUE MAEMBAwb",
  "ZvaYUMvaWANGKUOQvaNGGENwaDEUAEREEwaGKAQvaGHARAEvaMBEEKEETvaGBAYIvaNYIR MKPARAQ MEUNwaTU MBITva",
  "MBEUMvaPIRIEENvaNDOMBUvaMBAA CABBAGE-TREEvaKEUSHEUAEPvbGHAvaKEUKAQvaYU MUOMAEvaNZEUMvaMBUEvaNS",
  "EUAENvaMBITvaYEUQvbKPARAwaAAvaSEUXvaNDIDAvaTAASHAEvaNJUEQvaTITA YUEvaSUAETvaNGGUAEN NYAMvaVEUX",
  "vaNANSANAQvaMA KEUAERIvaNTAAwaGGUONvaLAPvaMBIRIEENwaGBASAQvaNTEUNGBAvaTEUTEUXvaNGGUMvaFUEvaNDE",
  "UTwaSAxaHAQvaBUNGvaVEUAEPENvaMBERAEvaRUvaNJAEMvbLAvaTITUAEPvaNSUOT NGOMwaJEEEEvaKETvaNGGUvaMAE",
  "SIwaBUAEMvaLUvaKUTvaNJAMwbGOvaWUPvaNGGUEETwaSOMwaTENvaKUOP NKAARAEvaNSUNwaDAMvaMA NSIEEvaYAAva",
  "NDAPvaSHUEQwaETFONvaMBIwaAEMBAwaBANYIvaKEUSEUXvdMBvaKEUMvaMBAA PICKETvaYUWOQvaNJEUXvaMIEEwbUAv",
  "aSHIQvaKEN LAWzaFATIGUEvaNGAQwcvbLIvaPINwbEvaTETtaD MBUOvaWAPvaNJIvaMFONvaNJIEEvdLvaNJEUTwaSHE",
  "EwbGGAAMAwaYAMvaWUAENvbNGKUvaSHEEvaNGKAPvaKEUAETMEUNvaTEUTvaSHEUAEvaNJAPvaSUEvaKETvaYAEMMAEvaK",
  "UOMvaSAPvaMFEUTvaNDEUXvaMALEERIwaEUTvaSEUAEQvaYENvaNJEUAEMvaKEUOT MBUAEvaNGKEURIvaTUvaGHAAvaNG",
  "KYEEvaFEUFEUAETvaNDEEvaMGBOFUMvaLEUAEPvaNDONvaMONIwaGBEUNvaPUUTvaMGBIEEwaFOvaLUMvaNSIEEPvaMBAA",
  "vaKWAETvcNYvaTEUAENvaSOTvaYUWOQvaKEUMvbRAEvaTEEEEvaNGKEUAEQvaMFEUAEvaNSIEETvaKEUPvbPIwaEUTAEvb",
  "NYUvaLETvaNGGAAMvaMFIEEvaNGGWAENvaYUOMvaPAPvbYUOvaNDAMwbTEUvaSUAEvaKUNvaNGGEUXxaKIEEvaTUOTvaME",
  "UNvaKUQvaNSUMvaTEUNvaMAENJETvaNGGAPvaLEUMvbNGGUOwaSHUTwaJUEQvaGHEUAEvaKUvaREN OLDvaTAEwaOQvaNY",
  "IvbRIvaLEEEEveMwavaSUUvbMvaSHIIxaEUXvaKYEEvaNUvbSHvaNTEEvcPvaNIvaSHOQvbPUvaMVOPvaLOQvaREN MUCH",
  "vaTIvaNTUUvaMBAA SEVENvaSAQvaFAAtaE NDAPvaTOONvaMBEUMvaLAPvaVOMvaLOONvaPAAvaSOMvaRAQvaNSHUOPwa",
  "DUNvaPUAEvaTAMvaNGKAvaKPEUXvaWUOvaSEEvaNGGEUAETvaPAAMvaTOOvaKUOPvaLOMvaNSHIEEwaGOPvaMAEMvaNGKE",
  "UXxaOQwaSHUEvaRIMGBAvaNJEUXvaPEEMvaSAAvaNGGURAEvaMGBAvaGHEUXvaNGKEUAEMwaJAEMLIvaMAPvaLOOTvaNGG",
  "EEEEwaDIQvaTAEN NTEUMvaSETvaPUMvaNDAA SOFTNESSwaGGUAESHAE NYAMvaYIEEvaGHEUNvaTUAEvdYEvaPOvaTUM",
  "AEvcKEUvaSUAENvaTEUAEQvaVEUAEvaWEUXvaLAAMvaPUvaTAAQvaGHAAMAEvaNGEUREUTvaSHEUAEQvaMGBENwaBEEvaN",
  "ZAQwaKOMvaGBETvaTUMvaKUETvaYAPvaNYI CLEAVERvaYITvaMFEUQvbNDIAvbPIEEvcYUvaLEUAEMvaFUEvaGBEUXvaN",
  "GKUPvaKETvaMAEvaNGKAAMIvaGHETvaFAvaNTUMvaPEUTvaYEUMvaNGGEUAEwaYI BETWEENwaZUQvaPOONvaMIEEvaFUE",
  "TvaNAEvcMUvdGHEvaFU IvbMVvaPUAQvaNGKUMvaKUTvbPIEvaNTAPvaYEUAETvaNGGUPvaPA PEOPLEvaFU CALLwaOMv",
  "aNJEEvaAvaTOQvaOvaIvaLAQvaPA PLURALvaTAAxaQvaNDAA MY HOUSEvaSHIQvaYEUXvaNGUAEvaYUAENwaOQ SWIMM",
  "INGzaCOVERwaUQxaNvaKEUXvdPvaNJEE EPOCHvaPUEvcWvbFEvcVvaLUvaMIvaREUXwaAEvaNGUAETxaAvaSHOyaQvaFU",
  " REMEDYvaNAvaPIvaLOQvaKOvaMENwaAxaQvaTEUvaKIvaMONvbTEvaFAQvaGHOMtaF KAvaUvbKvaEEvcRvbTAvaNYIva",
  "LAvaRIIxaEEvcMEEvaTAAvcNDwaJAEMvbvaSUUwaHIIwbwaEUXvaKYEEwaETvaNUAExawaJUAEvaYOQvaSHUvaYAvbNSHv",
  "aPEUXvaNTEEvbWUvbPEvaRUvaNIvaREUXvaKENvcNGKWAxaGAvaSHOvaPUAEvaFOMvaWAvaLIwaOQvaKOvaMBENvcRvaMA",
  "waOwaBAAvaTETvaKPAvbSAMBvaVUEQ~16A40aaMRO LETTER TAlaNGIlaYOlaMIMlaBAlbDlblaPHIlbKHAlaHAOlaDAI",
  "laCHUlaKEAAElaOLlaMAEMlaNINlaPAlaOOmalbRlaSHIlaTHEAlclbWlaElaKOlaLANnalaHAIlbRlaTEK~16A60eaDIG",
  "IT ZEROkaONEkaTWOlaHREEkaFOURlaIVEkaSIXlaEVENkaEIGHTkaNINE~16A6EfaANDAfeOUBLE DaaTANGSA LETTER",
  " OZpaCpaQpaXoaAZpaCpaQpaXoaVZpaCpaQpaXoaEZpaCpaQpaXoaIZpaCpaQpaXoaUZpaCpaQpaXoaAWZqaCqaQqaXoaU",
  "IZqaCqaQqaXoaFINAL NGoaLONG UEXoaSHORT UEZuaAWXoaUECqaZqaQqaXpaIUZraCraQraXoaMZpaCpaQpaXoaKApb",
  "HobGocNobSobYobWobPobNYobPHobBobMobNobHobLobHTocobDobRobNHocSobCobTSobGHobHTTobTHobXobFobDHocC",
  "obZ~16AC0haDIGIT ZEROnaONEnaTWOoaHREEnaFOURoaIVEnaSIXoaEVENnaEIGHTnaNINE~16AD0aaBASSA VAH LETT",
  "ER ENNIraKAraSEraFAraMBErbYIraGAHraDHIIraKPAHraJOraHWAHraWAraZOraGBUraDOraCEraUWUraTOraBAraVUr",
  "aYEINraPArbWADDrbraOsaOraUraEEsaraI~16AF0kaCOMBINING HIGH TONEufLOWufMIDuiLOW-ufHIGH-LOWkaFULL",
  " STOP~16B00aaPAHAWH HMONG VOWEL KEEBwaVuaIBvaVuaAUBwaVuaUBvaVuaEBvaVuaAIBwaVuaOOBwaVuaAWBwaVua",
  "UABwaVuaOBvaVuaIABwaVuaABvaVuaWBvaVuaAABwaVnaCONSONANT VAUxcNTSxcLxcHxcNLxcRxcNKxcQHxcYxcHLxcM",
  "xcCHxeNxcHNxcPLHxdNTycxcxcXxcCnaMARK CIM TUBwaSOwaKESxaHAVwaSUAMwbHOwbTAUnbSIGN VOS THOxaSHAB ",
  "CEEBsaCIM CHEEMsaVOS THIABwaFEEMsaXYEEM NTXIVyaRHOyaTOVyaFAIBsaVOS SEEVsaMEEJ SUABsaVOS NRUAsa",
  "IB YAMsaXAUSsaCIM TSOV ROG~16B50naDIGIT ZEROtaONEtaTWOuaHREEtaFOURuaIVEtaSIXuaEVENtaEIGHTtaNIN",
  "E~16B5BnaNUMBER TENSubHUNDREDucTEN THOUSANubMILLIONuiHUNDRED uhTEN BvhR~16B63naSIGN VOS LUBsaX",
  "YOOsaHLIsdTHIRD-STAGE saZWJ THAJsaHNUBsaNQIGsaXIABsaNTUJsaAVsbTXHEEJ CEEsaMEEJ TSEEBsaTAUsaLOS",
  "sbMUsaCIM HAIS LUS NTOG NTOGwaCUAM TSHOOJwaTXWV!a CHWVwaPUB DAWBwaNRES TOS~16B7DnaCLAN SIGN TS",
  "HEEJxaYEEGxaLISyaAUJxbXYOOxaKOOxaHAWJxaMUASxaTHOJyaSABxcPHxdKxaHAMxaVAJxcFxcYxaTSWBxaKWMxaVWJ~",
  "16E40aaMEDEFAIDRIN CAPITAL LETTER M#aS#aV#aW#aATIU#aZ#aKP#b#aT#aG#aF#aI#aK#aA#aJ#aE#aB#aC#aU#b",
  "Y#aL#aQ#aHP#aNY#aX#aD#aOE#aN#aR#aO#aAI#aYmaSMALL LETTER MzaSzaVzaWzaATIUzaZzaKPzbzaTzaGzaFzaIz",
  "aKzaAzaJzaEzaBzaCzaUzbYzaLzaQzaHPzaNYzaXzaDzaOEzaNzaRzaOzaAIzaYmaDIGIT ZEROsaONEsaTWOtaHREEsaF",
  "OURtaIVEsaSIXtaEVENsaEIGHTsaNINEmaNUMBER TENtcELEVtaTWELVEuaHIRTEENtfFOUueIFteSIXueEVENteEIGHt",
  "eNINEmaDIGIT ONE ALTERNATE FORMspTWOtpHREEmaCOMMAmaFULL STOPmaSYMBOL AIVAmaEXCLAMATION OH~16F0",
  "0baIAO LETTER PAmbBmbYI PmbPLmbMnbHmbARCHAIC MmbFmbVnbFmbTmbDmbYI TTqbmcTmbDDmbNnbHmbYI NNmcAR",
  "CHAIC mcNobHmbLnbYnbHobYmbTLHmdDmbTLHYmeDmbKmbGmbYI KmbQnbGmcNobHmbARCHAIC NGmbHmbXmbGHobHmbTS",
  "SmbDZZmbNYobHmcTSmcDZmcYI TSpcDZmcREFORMED TSmdnbSmbZHncSmbTSmbDZmbYI TSmcmbZnbSnbZobSmbARCHAI",
  "C ZZmbZZYocSmbWmaAHmaHHAmaBRImbSYmcDZmaTEnbSmbRT~16F4FfaSIGN CONSONANT MODIFIER BARfaLETTER NA",
  "SALIZATIONffSIGN ASPIRkaREFORMED VOICINGtaASPIRATIONfaVOWEL SIGN AraAraHHraNsaGqaOraOqbWraqaEr",
  "aNsaGqaOEYqaIraAsaNtaGraOraEraIraUraNGqaUraAsaNtaGraUraEIraNGqaYraIqaAEsaEqaERRqdROUNDED qbEqc",
  "ROUNDED qaAIqbEqaAUqbOqaNraGqbUOqaYUIqaOGraERqaVWqaIGqaEAqaIONGqaUI~16F8FfaTONE RIGHTkfTOP kaA",
  "BOVEkaBELOWfaLETTER TONE-2ra3ra4ra5ra6ra7ra8maREFORMED TONE-1!a2!a4!a5!a6!a8~16FE0aaTANGUT ITE",
  "RATION MARKapNUSHUafOLD CHINESE HOOKmfITERATIONaaKHITAN SMALL SCRIPT FILLER~16FF0aaVIETNAMESE ",
  "ALTERNATE READING MARK CA+aNHAY~18800aaTANGUT COMPONENT-001ta2ta3ta4ta5ta6ta7ta8ta9sa10ta1ta2t",
  "a3ta4ta5ta6ta7ta8ta9sa20ta1ta2ta3ta4ta5ta6ta7ta8ta9sa30ta1ta2ta3ta4ta5ta6ta7ta8ta9sa40ta1ta2ta",
  "3ta4ta5ta6ta7ta8ta9sa50ta1ta2ta3ta4ta5ta6ta7ta8ta9sa60ta1ta2ta3ta4ta5ta6ta7ta8ta9sa70ta1ta2ta3",
  "ta4ta5ta6ta7ta8ta9sa80ta1ta2ta3ta4ta5ta6ta7ta8ta9sa90ta1ta2ta3ta4ta5ta6ta7ta8ta9ra100ta1ta2ta3",
  "ta4ta5ta6ta7ta8ta9sa10ta1ta2ta3ta4ta5ta6ta7ta8ta9sa20ta1ta2ta3ta4ta5ta6ta7ta8ta9sa30ta1ta2ta3t",
  "a4ta5ta6ta7ta8ta9sa40ta1ta2ta3ta4ta5ta6ta7ta8ta9sa50ta1ta2ta3ta4ta5ta6ta7ta8ta9sa60ta1ta2ta3ta",
  "4ta5ta6ta7ta8ta9sa70ta1ta2ta3ta4ta5ta6ta7ta8ta9sa80ta1ta2ta3ta4ta5ta6ta7ta8ta9sa90ta1ta2ta3ta4",
  "ta5ta6ta7ta8ta9ra200ta1ta2ta3ta4ta5ta6ta7ta8ta9sa10ta1ta2ta3ta4ta5ta6ta7ta8ta9sa20ta1ta2ta3ta4",
  "ta5ta6ta7ta8ta9sa30ta1ta2ta3ta4ta5ta6ta7ta8ta9sa40ta1ta2ta3ta4ta5ta6ta7ta8ta9sa50ta1ta2ta3ta4t",
  "a5ta6ta7ta8ta9sa60ta1ta2ta3ta4ta5ta6ta7ta8ta9sa70ta1ta2ta3ta4ta5ta6ta7ta8ta9sa80ta1ta2ta3ta4ta",
  "5ta6ta7ta8ta9sa90ta1ta2ta3ta4ta5ta6ta7ta8ta9ra300ta1ta2ta3ta4ta5ta6ta7ta8ta9sa10ta1ta2ta3ta4ta",
  "5ta6ta7ta8ta9sa20ta1ta2ta3ta4ta5ta6ta7ta8ta9sa30ta1ta2ta3ta4ta5ta6ta7ta8ta9sa40ta1ta2ta3ta4ta5",
  "ta6ta7ta8ta9sa50ta1ta2ta3ta4ta5ta6ta7ta8ta9sa60ta1ta2ta3ta4ta5ta6ta7ta8ta9sa70ta1ta2ta3ta4ta5t",
  "a6ta7ta8ta9sa80ta1ta2ta3ta4ta5ta6ta7ta8ta9sa90ta1ta2ta3ta4ta5ta6ta7ta8ta9ra400ta1ta2ta3ta4ta5t",
  "a6ta7ta8ta9sa10ta1ta2ta3ta4ta5ta6ta7ta8ta9sa20ta1ta2ta3ta4ta5ta6ta7ta8ta9sa30ta1ta2ta3ta4ta5ta",
  "6ta7ta8ta9sa40ta1ta2ta3ta4ta5ta6ta7ta8ta9sa50ta1ta2ta3ta4ta5ta6ta7ta8ta9sa60ta1ta2ta3ta4ta5ta6",
  "ta7ta8ta9sa70ta1ta2ta3ta4ta5ta6ta7ta8ta9sa80ta1ta2ta3ta4ta5ta6ta7ta8ta9sa90ta1ta2ta3ta4ta5ta6t",
  "a7ta8ta9ra500ta1ta2ta3ta4ta5ta6ta7ta8ta9sa10ta1ta2ta3ta4ta5ta6ta7ta8ta9sa20ta1ta2ta3ta4ta5ta6t",
  "a7ta8ta9sa30ta1ta2ta3ta4ta5ta6ta7ta8ta9sa40ta1ta2ta3ta4ta5ta6ta7ta8ta9sa50ta1ta2ta3ta4ta5ta6ta",
  "7ta8ta9sa60ta1ta2ta3ta4ta5ta6ta7ta8ta9sa70ta1ta2ta3ta4ta5ta6ta7ta8ta9sa80ta1ta2ta3ta4ta5ta6ta7",
  "ta8ta9sa90ta1ta2ta3ta4ta5ta6ta7ta8ta9ra600ta1ta2ta3ta4ta5ta6ta7ta8ta9sa10ta1ta2ta3ta4ta5ta6ta7",
  "ta8ta9sa20ta1ta2ta3ta4ta5ta6ta7ta8ta9sa30ta1ta2ta3ta4ta5ta6ta7ta8ta9sa40ta1ta2ta3ta4ta5ta6ta7t",
  "a8ta9sa50ta1ta2ta3ta4ta5ta6ta7ta8ta9sa60ta1ta2ta3ta4ta5ta6ta7ta8ta9sa70ta1ta2ta3ta4ta5ta6ta7ta",
  "8ta9sa80ta1ta2ta3ta4ta5ta6ta7ta8ta9sa90ta1ta2ta3ta4ta5ta6ta7ta8ta9ra700ta1ta2ta3ta4ta5ta6ta7ta",
  "8ta9sa10ta1ta2ta3ta4ta5ta6ta7ta8ta9sa20ta1ta2ta3ta4ta5ta6ta7ta8ta9sa30ta1ta2ta3ta4ta5ta6ta7ta8",
  "ta9sa40ta1ta2ta3ta4ta5ta6ta7ta8ta9sa50ta1ta2ta3ta4ta5ta6ta7ta8ta9sa60ta1ta2ta3ta4ta5ta6ta7ta8~",
  "1AFF0aaKATAKANA LETTER MINNAN TONE-2$a3$a4$a5~1AFF5$a7$a8xaNASALIZED TONE-1;a2;a3;a4;a5~1AFFD;",
  "a7;a8~1B000qaARCHAIC EabHIRAGANA LETTER ARCHAIC YbaENTAIGANA LETTER A-1ua2ua3uaWOsaI-1ua2ua3ua",
  "4saU-1ua2ua3ua4ua5saE-2ua3ua4ua5ua6saO-1ua2ua3saKA-1va2va3va4va5va6va7va8va9va10wa1vaKEtaI-1va",
  "2va3va4va5va6va7va8taU-1va2va3va4va5va6va7taE-1va2va3va4va5va6taO-1va2va3vaKIsaSA-1va2va3va4va",
  "5va6va7va8taI-1va2va3va4va5va6taU-1va2va3va4va5va6va7va8taE-1va2va3va4va5taO-1va2va3va4va5va6v",
  "a7saTA-1va2va3va4taI-1va2va3va4va5va6va7taU-1va2va3va4vaTOtaE-1va2va3va4va5va6va7va8va9taO-1va",
  "2va3va4va5va6vaRAsaNA-1va2va3va4va5va6va7va8va9taI-1va2va3va4va5va6va7vaTEtaU-1va2va3taE-1va2v",
  "a3va4va5va6vaKOtaO-1va2va3va4va5saHA-1va2va3va4va5va6va7va8va9va10wa1tbI-va2va3va4va5va6va7taU",
  "-1va2va3taE-1va2va3va4va5va6va7taO-1va2va3va4va5va6va7va8saMA-1va2va3va4va5va6va7taI-1va2va3va",
  "4va5va6va7taU-1va2va3va4taE-1va2vaMAtaO-1va2va3va4va5va6saYA-1va2va3va4va5vaYOtaU-1va2va3va4ta",
  "O-1va2va3va4va5va6saRA-1va2va3va4taI-1va2va3va4va5va6va7taU-1va2va3va4va5va6taE-1va2va3va4taO-",
  "1va2va3va4va5va6saWA-1va2va3va4va5taI-1va2va3va4va5taE-1va2va3va4taO-1va2va3va4va5va6va7saN-MU",
  "-MO-1!a2baIRAGANA LETTER ARCHAIC WUaaKATAKANA LETTER ARCHAIC YIzaEyaWU~1B150aaHIRAGANA LETTER ",
  "SMALL WIxaExaO~1B164aaKATAKANA LETTER SMALL WIxaExaOwaN~1BC00aaDUPLOYAN LETTER HqaXqaPqaTqaFqa",
  "KqaLqaBqaDqaVqaGqaRqaP NqaD SqaF NqaK MqaR SqaTHqbSLOAN DqcqaKKqaSLOAN JqaHLqaLHqbRqaMqaNqaJqa",
  "SqaM NqaN MqcJqaS JqaM WITH DOTqjNqjJ!aS INSIDE AND ABOVEqaS WITH DOT!a BELOWqaM SqcNqcJqcSqcM",
  " NqcN MqeJqcS JqaJ S WITH DOTsaNta SqaS Tta RsaPta RqaT SsbR qaWraHra RqaS NsaMqaK R SqeGqaS K",
  "ta RqaAqaSLOAN OWqaOAraqaAOUqaIqaEqbIqaSHORT IqbUqaEEqaSLOAN EHqaROMANIAN IqaSLOAN EEqaLONG Iq",
  "aYEqaUqbEqaXWqaU NqaLONG UqcROMANIANqaUHqaSLOAN UqaOOHraWraUqaWAraOraIrbEraOWqaNASAL UwaOwaIwa",
  "AqaPERNIN ANyaMqaSLOAN ENwbAwbOqaVOCALIC M~1BC70jaAFFIX LEFT HORIZONTAL SECANTpsMIDpsRIGHTpjLO",
  "W VERTICpqMIDpqHIGHphATTACHEDygLEFT-TO-RIGHT ycTANGE!aILyaE HOOKyfIyfTANGENT~1BC80paHIGH ACUTE",
  "ufTIGHT ubGRAVufLONG uaDOTuaCIRCLEubLINubWAVuaVERTICAL~1BC90paLOW ACUTEtfTIGHT tbGRAVtfLONG ta",
  "DOTtaCIRCLEtbLINtbWAVtaVERTICALtaARROW~1BC9CjaSIGN O WITH CROSSjaTHICK LETTER SELECTORjaDOUBLE",
  " MARKjaPUNCTUATION CHINOOK FULL STOPabSHORTHAND FORMAT LETTER OVERLAriCONTINUINGrbDOWN STErfUP",
  "~1CF00aaZNAMENNY COMBINING MARK GORAZDO NIZKO S KRYZHEM ON LEFTyxyiTSATAyiGORAZDO NIZKOynyiSRE",
  "DNEyjMALO POVYSHypyiVYSOKOyiMALO POVYSHE S KHOKHLOMy!ytVYSOKOybGORAZDO NIZKO S KRYZHEM ON RIGH",
  "yyyjTSATAyjGORAZDO NIZKOyoyjSREDNEykMALO POVYSHyqyjVYSOKOyjMALO POVYSHE S KHOKHLOMy#yuVYSOKOya",
  "TSATA S KRYZHEMykMALO POVYSHEyaSTRANNO MALO POVYSHEyaPOVYSHE S KRYZHEM*aTRANNOyaVYSOKO S KRYZH",
  "EMyaMALO POVYSHE STRANNOybGORAZDO VYSOKybZELyaONyaRAVNOyaTIKHAYAydBORZybUDARKycPODVERTycLOMybK",
  "UPNAYzbACHKyaZEVOKyaSKOBAybRAZSEKyaKRYZH ON LEFT~1CF30taTONAL RANGE MARK MRACHNO.bSVETL.gTREta",
  "MARK ZADERZHKAyjDEMESTVENNY ydOTSECyaPODCHASHIE+a WITH VERTICAL STROKEyaCHASHKA(a POLNAYAyaOBL",
  "ACHKOyaSOROCHYA NOZHKAydTOCyaDVOETOCHIEtaATTACHING VERTICAL OMETtfMARK CURVEDyaKRYZHtaLOWER TO",
  "NAL RANGE INDICATORjaPRIZNAK MODIFIER LEVEL-2)a3!aDIRECTION FLIP!aKRYZH!aROG~1CF50jaNEUME KRYU",
  "Kua TIKHYpaPARAKLITpaDVA V CHELNUpaKLYUCHpaZANOZHEKpaSTOPITSAxa S OCHKOMpaPEREVODKAya NEPOSTOY",
  "ANNAYApbSTOPITSA WITH SOROCHYA NOZHKpcCHELYUSTpcPALpbZAPYATAYpaGOLUBCHIK BORZYzbTIKHzbMRACHNzb",
  "SVETLzgTREpaVRAKHIYA PROSTAYAydMRACHNydSVETLyiTREydKLYUCHEVAYA PROST.dMRACHN.dSVETL.iTREpdDOUB",
  "LE ZAPYATpbREVERSED CHELYUSTKpbDERBITSpaKHAMILOpaCHASHKApaPODCHASHIEpaSKAMEYTSA MRACHNAYAzdSVE",
  "TLziTRE!dIKHpaDEMESTVENNY KLYUCHpaSKAMEYTSA KLYUCHEVAYA SVETLAYA)dNEPOSTOYANN)dVAYA TIKHzdDVOE",
  "CHELNAYA PROST;dSVETL;dNEPOSTOYANN;dKLYUCHEVqaLOZHITIEya S ZAPYATOYzaZAKRYTOEzaS KRYZHEMpaKRYZ",
  "HpaROGpaFITApbKOBYLpbZMEYTSpbSTATYva S ZAPYATOYyaKRYZHEMyhZAPYATOY I yaKRYZHEM I ZAPYATOYwaZAK",
  "RYTAYA(a S ZAPYATOYwaS ROGOMyaDVUMYA ZAPYATYMIyaZAPYATOY I PODCHASHIEMpaPOLKULIZMYpaSTATYA NEP",
  "OSTOYANNAYArdRELA PROSTwdMRACHNOTIKHwdKRYZHEVwdPOLUPOVODNyhweNEPOSTOYANweKLYUCHEPOVOD%eNEPOSTO",
  "YANweTIKHAYA PUTweDVOECHEL(dOKRYZHEV)dPOVODN(dAYA KLYUCHEV(pOPOVODNwdGROMNAYA WITH SINGLE ZAPY",
  "AT!!OPOVOD!dN!eOPOVOD.a WITH DOUBLE ZAPYATAYA#dKRYZHEV:a POVODNAYApaMECHIKva POVODNYwbKLYUCHEV",
  "O%bPOVODN%cNEPOSTOYANpaSTRELA TRYASOGLASNAYA$ePOVOD$eSTRELpbOSOKua SVETLAYAviTREviKRYUKOVAYA w",
  "nLYUCHE*dNEPOSTOYANNpdSTRELA KRYUKOV)a POVODNAYA*dGROMNAYA WITH SINGLE ZAPYAT:!OPOVOD:dN:eOPOV",
  "OD|a WITH DOUBLE ZAPYATAYA;dKRYZHEV|bA POVODNAY*bTRYASKpbKUFISMpaOBLAKOpaDUDApbNEMKpaPAUK~1D00",
  "0aaBYZANTINE MUSICAL SYMBOL PSILIzaDASEIAzaPERISPOMENIzaOXEIA EKFONITIKON(aDIPLIzaVAREIA EKFON",
  "ITIKON)aDIPLIzbKATHISTzbSYRMATIKzePARAKLIzaYPOKRISIS+a DIPLIzbKREMASTzaAPESO EKFONITIKONznEXza",
  "TELEIAzbKENTIMATzaAPOSTROFOS,a DIPLIzaSYNEVMAzbTHITzaOLIGON ARCHAIONzmGORzcPSILzeCHAMzaVATHYza",
  "ISON ARCHAIONzjKENTIMA)jTAzaSAXIMATAzaPARICHONzaSTAVROS APODEXIAzaOXEIAI ARCHAIONznVARzjAPODER",
  "MA$aTHEMAzcKLASzcREVzaPIASMA ARCHAIONzaTINAGMAzcANATRICHISzeSE!aYNAGMA ARCHAION*aMETA STAVROUz",
  "aOYRANISMA ARCHAIONzaTHEMAzaLEMOIzaDYOzaTRIA!bESSERzbKRATIMATzaAPESO EXO NEOzaFTHORA ARCHAIONz",
  "aIMIFTHORAzaTROMIKON ARCHAIONzcKATAVA TROMIKzcPELAST!eSIFIzaKONTEVMAzaCHOREVMA ARCHAIONzaRAPIS",
  "MAzaPARAKALESMA ARCHAION&jLITIKIzbICHADIzaNANAzbPETASMzaKONTEVMA ALLOzfTROMIKONzaSTRAGGISMATAz",
  "gGRONTHzaISON NEOzgOLIG!eXEIAzaPETASTIzaKOUFISMAziPETASTOzjKRATIMzaPELASTON NEOzbKENTIMATA NEO",
  " AN)izaYPSILIzaAPOSTROFOS NEO+fI SYNDESMOzaYPORROIzaKRATIMOYPORROONzcELAFRzaCHAMILIzaMIKRON IS",
  "ONzaVAREIA NEOzfPIASM!eSIFISTONzaOMALONzaANTIKENOMAzcLYGISzaPARAKLITIKI NEO&eALESMAzaETERON PA",
  "RAKALESMAzdKYLIzhANTIKENOzaTROMIKON NEOzaEKSTREPTONzaSYNAGMA NEO#aRMAzaCHOREVMA NEOzaEPEGERMAz",
  "aSEISMA NEOzaXIRON KLASMAzaTROMIKOPSIFISTONzaPSIFISTOLYGISMAziTROMIK)dPARAKALEzmPSIFISTzcTROMI",
  "KOSYNAGziPSIFISTzaGORGOSYNTHETONzmAznETERON zaOYRANISMA NEOzbTHEMATISMOS ES;bX&a APLOUN$aS KAI",
  " APOTHESzaKATAVASMAzaENDOFONONzaYFEN KATO&bANzaSTAVROSzaKLASMA ANOzaDIPLI ARCHAIONzjKRATIMA+aL",
  "LO*bNEzgAPODER#aLIzdDIzeTR!dETRAzaKORONISzaLEIMMA ENOS CHRONOU)aDYO CHRONON)iTRION*kESSAR)aIMI",
  "SEOS CHRONOUzaGORGON NEO ANO)aPARESTIGMENON ARISTERA_bDEXIzaDIGORGON*a PARESTIGMENON ARISTERA ",
  "KATO|b ARISTERA AN|a DEXIAzaTRIGORGONzeAzfIMIDIzhzaAGOGI POLI ARGI(bARGOTER+b(aMETRIA*aSI(bGOR",
  "G,bOTER(bPOLI GORGzaMARTYRIA PROTOS ICHOS+mALLI +iDEYTER+oALLI +iTRIT:bFONIA,bETARTOS ICHO[fLE",
  "GETOS +n+iPLAGIzcISAKIA TELOUS ICHIMATzrAPOSTROFOIzbFANEROSIS TETRAFONIA,gMONO,gDIzbMARTYRIA V",
  "ARYS ICHO+lPROTO,hLAGIOS TETARTOzaGORTHMIKON N APLOUN;fDIzaENARXIS KAI FTHORA VOUzaIMIFONON%cT",
  "HORzaFTHORA ARCHAION DEYTEROU ICHOU)aDIATONIKI PA@bNAN)aNAOS ICHOS)aDIATONIKI DI)dSKLIRON DIAT",
  "ONON)aDIATONIKI KE@aZO@bNI KAT^bAN)aMALAKON CHROMA DIFONIAS|gMONO!bHTORA SKLIRON CHROMA VASI!a",
  "THORA SKLIRON CHROMA SYNAFI)aNENANOzaCHROA ZYGOS(aKLITON(aSPATHIzaFTHORA I YFESIS TETARTIMORIO",
  "N)aENARMONIOS ANTIFONIAzaYFESIS TRITIMORIONzqDI*iETAR)aAPLI DYO DODEKATA)jMONOGRAMMOS TESSERA)",
  "jDIGRAMMOS EX)jTRIGRAMMOS OKTOzkYFESIS APLI DY)jMONOGRAMMOS TESSERA)jDIGRAMMOS EX)jTRIGRAMMOS ",
  "OKTOzaGENIKI DIESIS)eYFzaDIASTOLI APLI MIKRI>bEGAL+cDIP+aTHESEOSziSIMANSIS?a DISIMOU@gTR[fETRA",
  "+aARSEOS>a DISIMOU?gTR@fETRAzaDIGRAMMA GG#aFTOGGOS OUzaSTIGMAzbARKTIKO P*aVOU*aGA*aDI*aKE*aZO*",
  "aNIzaKENTIMATA NEO MESO)j)bTA NEO KAT)j!fLASMAzfGORGON NEO~1D100aaMUSICAL SYMBOL SINGLE BARLIN",
  "EpkDOUBpiFINALpnREVERSE piDASHEDpiSHORTpaLEFT REPEAT SIGNpnRIGHqaEPEAT DOTSpaDAL SEGNOrb CAPpb",
  "SEGNpaCODApaREPEATED FIGURE-1(a2(a3paFERMATAwa BELOWpaBREATH MARKpaCAESURApaBRACEtaKETpaONE-LI",
  "NE STAFFplTWOqlHREEplFOURqlIVEplSIXtaSTRING FRETBOARDprFOURpaG CLEFva OTTAVA ALTA%bBASSpaC CLE",
  "FpfFva OTTAVA ALTA%bBASSpaDRUM CLEF-1za2~1D129paMULTIPLE MEASURE RESTpaDOUBLE SHARPwaFLATpaFLA",
  "T UPuaDOWNpaNATURAL UPxaDOWNpaSHARP UPvaDOWNpaQUARTER TONE SHARP$aFLATpaCOMMON TIMEqfUTpaOTTAV",
  "A ALTAwbBASSpbQUINDICESIMA ALT$bBASSpaMULTI RESTpfWHOLEpfHALFpfQUARTERpfEIGHTHphSIXTEENpfTHIRT",
  "Y-SECONDpfSIXTY-FOURTHphONE HUNDRED TWENTY-EIGHpaX NOTEHEADpjPLUSpjCIRCLE XpaSQUARE NOTEHEAD W",
  "HITE(aBLACKpaTRIANGLE NOTEHEAD UP WHITE.aBLACK*aLEFT WHITE;aBLACK*aRIGHT WHITE<aBLACK*aDOWN WH",
  "ITE;aBLACK*aUP RIGHT WHITE@aBLACKpaMOON NOTEHEAD WHITE%aBLACKpaTRIANGLE-ROUND NOTEHEAD DOWN WH",
  "ITE]aBLACKpaPARENTHESIS NOTEHEADpjVOIDpaNOTEHEAD BLACKqaULL NOTEHEADpaCLUSTER NOTEHEAD WHITE)a",
  "BLACKpaBREVEpbWHOLE NOTpfHALFpfQUARTERpfEIGHTHphSIXTEENpfTHIRTY-SECONDpfSIXTY-FOURTHphONE HUND",
  "RED TWENTY-EIGHpaCOMBINING STEM!dPRECHGESANG SzaTREMOLO-1*a2*a3paFINGERED TREMOLO-1)a2)a3paCOM",
  "BINING AUGMENTATION DOTzaFLAG-1&a2&a3&a4&a5paBEGIN BEAMpfENDpaBEGIN TIEpeENDpaBEGIN SLURpfENDp",
  "aBEGIN PHRASEphENDpaCOMBINING ACCENTzaSTACCATOzcTENUzbSTACCATISSIMzbMARCAT)a-STACCATOzjACCENTz",
  "aLOUREpaARPEGGIATO UP!aDOWNpaCOMBINING DOITzaRIPzcFLzaSMEARzaBENDzaDOUBLE TONGUEzjTRIPpaRINFOR",
  "ZANDOpbSUBITpaZpaPIANOpbMEZZpaFORTEpaCRESCENDOpjDEpaGRACE NOTE SLASH!fNO paTRqaURNpeINVERTED p",
  "aTURN SLASHuaUPpaORNAMENT STROKE-1(a2(a3(a4(a5(a6(a7(a8(a9(a10)a1paHAUPTSTIMMEpgNEBENpgEND OF ",
  "paDEGREE SLASHpaCOMBINING DOWN BOWzeUPzaHARMONICzaSNAP PIZZICATOpaPEDAL MARKveUP pfHALF PEDALp",
  "aGLISSANDO UPzaDOWNpaWITH FINGERNAILSpaDAMPta ALLpaMAXIMApbLONGpaBREVISpaSEMIBREVIS WHITE!aBLA",
  "CKpaMINIMAva BLACKpaSEMIMINIMA WHITE!aBLACKpaFUSA WHITEuaBLACKpaLONGA PERFECTA RESTvnIMpfBREVI",
  "SplSEMIpfMINIMAplSEMIpaTEMPUS PERFECTUM CUM PROLATIONE PERFECTA|iIM|aPERFECTA DIMINUTION-1waIM",
  "PERFECTUM CUM PROLATIONE PERFECTA|iE IM|aE IMPERFECTA DIMINUTION-1|aE IMPERFECTA DIMINUTION-2|",
  "aE IMPERFECTA DIMINUTION-3paCROIXpaGREGORIAN C CLEFzfFpaSQUARE BpaVIRGApaPODATUSpbCLIVIpbSCAND",
  "ICUpdCLIMApcTORCULpcPORRECTya FLEXUSpjSCANDICpcTORCULUS RESUPINpbPES SUBPUNCTIpaKIEVAN C CLEFw",
  "aEND OF PIECEwbFINAL NOTwaRECITATIVE MARKwaWHOLE NOTEwfHALFwaQUARTER NOTE STEM DOWN>aUPwaEIGHT",
  "H NOTE STEM DOWN<aUPwaFLAT SIGNpaSORIpaKORON~1D200aaGREEK VOCAL NOTATION SYMBOL-1$a2$a3$a4$a5$",
  "a6$a7$a8$a9$a10%a1%a2%a3%a4%a5%a6%a7%a8%a9$a20%a1%a2%a3%a4$a50%a1%a2%a3%a4gaINSTRUMENTAL NOTAT",
  "ION SYMBOL-1,a2,a4,a5,a7,a8,a11.a2.a3.a4.a7.a8.a9,a23.a4.a5.a6.a7.a9,a30.a2.a6.a7.a8.a9,a40.a2",
  ".a3.a5.a7.a8.a9,a50.a1.a2.a3.a4aaCOMBINING GREEK MUSICAL TRISEMEzeETRAyfPENTaaGREEK MUSICAL LE",
  "IMMA~1D2E0aaMAYAN NUMERAL ZEROoaONEoaTWOpaHREEoaFOURpaIVEoaSIXpaEVENoaEIGHToaNINEoaTENocELEVoa",
  "TWELVEpaHIRTEENofFOUpeIFoeSIXpeEVENoeEIGHoeNINE~1D300baONOGRAM FOR EARTHagDIGRAM FOR HEAVENLYm",
  "gUMANlaEARTHLY HEAVENubUMAqaaaTETRAGRAM FOR CENTREobFULL CIRCLoaMIREDoaBARRIERoaKEEPING SMALLo",
  "aCONTRARIETYoaASCENToaOPPOSITIONoaBRANCHING OUToaDEFECTIVENESS OR DISTORTIONpaIVERGENCEoaYOUTH",
  "FULNESSoaINCREASEoaPENETRATIONoaREACHoaCONTACToaHOLDING BACKoaWAITINGodFOLLOWoaADVANCEobRELEAS",
  "qbSISTANCobEASoaJOYoaCONTENTIONoaENDEAVOURoaDUTIESoaCHANGEoaDECISIVENESSoaBOLD RESOLUTIONoaPAC",
  "KINGoaLEGIONoaCLOSENESSoaKINSHIPoaGATHERINGoaSTRENGTHoaPURITYoaFULLNESSoaRESIDENCEoaLAW OR MOD",
  "ELoaRESPONSEoaGOING TO MEEToaENCOUNTERSoaSTOVEoaGREATNESSoaENLARGEMENToaPATTERNoaRITUALoaFLIGH",
  "ToaVASTNESS OR WASTINGoaCONSTANCYoaMEASUREoaETERNITYoeUoaDIMINISHMENToaCLOSED MOUTHoaGUARDEDNE",
  "SSpaATHERING INoaMASSINGoaACCUMULATIONoaEMBELLISHMENTobDOUBoaWATCHoaSINKINGoaINNERoaDEPARTUREp",
  "aARKENINGpdIMMoaEXHAUSTIONoaSEVERANCEpbTOPPAGoaHARDNESSoaCOMPLETIONpaLOSUREodFAILoaAGGRAVATION",
  "oaCOMPLIANCEobON THE VERGoaDIFFICULTIESoaLABOURINGoeFOSTE~1D360aaCOUNTING ROD UNIT DIGIT ONEya",
  "TWOzaHREEyaFOURzaIVEyaSIXzaEVENyaEIGHTyaNINEncTENS DIGIT OyaTWOzaHREEyaFOURzaIVEyaSIXzaEVENyaE",
  "IGHTyaNINEacIDEOGRAPHIC TALLY MARK OxaTWOyaHREExaFOURyaIVEabTALLY MARK ONlbFIV~1D400aaMATHEMAT",
  "ICAL BOLD CAPITAL A!aB!aC!aD!aE!aF!aG!aH!aI!aJ!aK!aL!aM!aN!aO!aP!aQ!aR!aS!aT!aU!aV!aW!aX!aY!aZ",
  "saSMALL AyaByaCyaDyaEyaFyaGyaHyaIyaJyaKyaLyaMyaNyaOyaPyaQyaRyaSyaTyaUyaVyaWyaXyaYyaZnaITALIC C",
  "APITAL A$aB$aC$aD$aE$aF$aG$aH$aI$aJ$aK$aL$aM$aN$aO$aP$aQ$aR$aS$aT$aU$aV$aW$aX$aY$aZuaSMALL A!a",
  "B!aC!aD!aE!aF!aG~1D456!aI!aJ!aK!aL!aM!aN!aO!aP!aQ!aR!aS!aT!aU!aV!aW!aX!aY!aZnaBOLD ITALIC CAPI",
  "TAL A*aB*aC*aD*aE*aF*aG*aH*aI*aJ*aK*aL*aM*aN*aO*aP*aQ*aR*aS*aT*aU*aV*aW*aX*aY*aZzaSMALL A(aB(a",
  "C(aD(aE(aF(aG(aH(aI(aJ(aK(aL(aM(aN(aO(aP(aQ(aR(aS(aT(aU(aV(aW(aX(aY(aZnaSCRIPT CAPITAL A~1D49E",
  "$aC$aD~1D4A2$aG~1D4A5$aJ$aK~1D4A9$aN$aO$aP$aQ~1D4AE$aS$aT$aU$aV$aW$aX$aY$aZuaSMALL A!aB!aC!aD~",
  "1D4BB!aF~1D4BD!aH!aI!aJ!aK!aL!aM!aN~1D4C5!aP!aQ!aR!aS!aT!aU!aV!aW!aX!aY!aZnaBOLD SCRIPT CAPITA",
  "L A*aB*aC*aD*aE*aF*aG*aH*aI*aJ*aK*aL*aM*aN*aO*aP*aQ*aR*aS*aT*aU*aV*aW*aX*aY*aZzaSMALL A(aB(aC(",
  "aD(aE(aF(aG(aH(aI(aJ(aK(aL(aM(aN(aO(aP(aQ(aR(aS(aT(aU(aV(aW(aX(aY(aZnaFRAKTUR CAPITAL A%aB~1D5",
  "07%aD%aE%aF%aG~1D50D%aJ%aK%aL%aM%aN%aO%aP%aQ~1D516%aS%aT%aU%aV%aW%aX%aY~1D51EvaSMALL A#aB#aC#a",
  "D#aE#aF#aG#aH#aI#aJ#aK#aL#aM#aN#aO#aP#aQ#aR#aS#aT#aU#aV#aW#aX#aY#aZnaDOUBLE-STRUCK CAPITAL A,a",
  "B~1D53B,aD,aE,aF,aG~1D540,aI,aJ,aK,aL,aM~1D546,aO~1D54A,aS,aT,aU,aV,aW,aX,aY~1D552#aSMALL A*aB",
  "*aC*aD*aE*aF*aG*aH*aI*aJ*aK*aL*aM*aN*aO*aP*aQ*aR*aS*aT*aU*aV*aW*aX*aY*aZnaBOLD FRAKTUR CAPITAL",
  " A+aB+aC+aD+aE+aF+aG+aH+aI+aJ+aK+aL+aM+aN+aO+aP+aQ+aR+aS+aT+aU+aV+aW+aX+aY+aZ!aSMALL A)aB)aC)a",
  "D)aE)aF)aG)aH)aI)aJ)aK)aL)aM)aN)aO)aP)aQ)aR)aS)aT)aU)aV)aW)aX)aY)aZnaSANS-SERIF CAPITAL A)aB)a",
  "C)aD)aE)aF)aG)aH)aI)aJ)aK)aL)aM)aN)aO)aP)aQ)aR)aS)aT)aU)aV)aW)aX)aY)aZyaSMALL A&aB&aC&aD&aE&aF",
  "&aG&aH&aI&aJ&aK&aL&aM&aN&aO&aP&aQ&aR&aS&aT&aU&aV&aW&aX&aY&aZyaBOLD CAPITAL A:aB:aC:aD:aE:aF:aG",
  ":aH:aI:aJ:aK:aL:aM:aN:aO:aP:aQ:aR:aS:aT:aU:aV:aW:aX:aY:aZ%aSMALL A,aB,aC,aD,aE,aF,aG,aH,aI,aJ,",
  "aK,aL,aM,aN,aO,aP,aQ,aR,aS,aT,aU,aV,aW,aX,aY,aZyaITALIC CAPITAL A<aB<aC<aD<aE<aF<aG<aH<aI<aJ<a",
  "K<aL<aM<aN<aO<aP<aQ<aR<aS<aT<aU<aV<aW<aX<aY<aZ(aSMALL A:aB:aC:aD:aE:aF:aG:aH:aI:aJ:aK:aL:aM:aN",
  ":aO:aP:aQ:aR:aS:aT:aU:aV:aW:aX:aY:aZyaBOLD ITALIC CAPITAL A]aB]aC]aD]aE]aF]aG]aH]aI]aJ]aK]aL]a",
  "M]aN]aO]aP]aQ]aR]aS]aT]aU]aV]aW]aX]aY]aZ.aSMALL A@aB@aC@aD@aE@aF@aG@aH@aI@aJ@aK@aL@aM@aN@aO@aP",
  "@aQ@aR@aS@aT@aU@aV@aW@aX@aY@aZnaMONOSPACE CAPITAL A(aB(aC(aD(aE(aF(aG(aH(aI(aJ(aK(aL(aM(aN(aO(",
  "aP(aQ(aR(aS(aT(aU(aV(aW(aX(aY(aZxaSMALL A%aB%aC%aD%aE%aF%aG%aH%aI%aJ%aK%aL%aM%aN%aO%aP%aQ%aR%a",
  "S%aT%aU%aV%aW%aX%aY%aZnaITALIC SMALL DOTLESS I+aJ~1D6A8naBOLD CAPITAL ALPHA!bBET!bGAMM!bDELT!a",
  "EPSILON!aZETA!d!dTH!cIO!bKAPP!bLAMD!aMU!bN!aXI!aOMICRON!aPI!aRHO!aTHETA SYMBOL!aSIGMA!aTAU!aUP",
  "SILON!aPHI!cC!bPS!aOMEGAsbNABLsbSMALL ALPHybBETybGAMMybDELTyaEPSILONyaZETAydydTHycIOybKAPPybLA",
  "MDyaMUybNyaXIyaOMICRONyaPIyaRHOyaFINAL SIGMAyfyaTAUyaUPSILONyaPHIycCybPSyaOMEGAsaPARTIAL DIFFE",
  "RENTIALsbEPSILON SYMBOshTHETAsiKAPPshPHIshRHOshPInaITALIC CAPITAL ALPHA$bBET$bGAMM$bDELT$aEPSI",
  "LON$aZETA$d$dTH$cIO$bKAPP$bLAMD$aMU$bN$aXI$aOMICRON$aPI$aRHO$aTHETA SYMBOL$aSIGMA$aTAU$aUPSILO",
  "N$aPHI$cC$bPS$aOMEGAubNABLubSMALL ALPH!bBET!bGAMM!bDELT!aEPSILON!aZETA!d!dTH!cIO!bKAPP!bLAMD!a",
  "MU!bN!aXI!aOMICRON!aPI!aRHO!aFINAL SIGMA!f!aTAU!aUPSILON!aPHI!cC!bPS!aOMEGAuaPARTIAL DIFFERENT",
  "IALubEPSILON SYMBOuhTHETAuiKAPPuhPHIuhRHOuhPInaBOLD ITALIC CAPITAL ALPHA*bBET*bGAMM*bDELT*aEPS",
  "ILON*aZETA*d*dTH*cIO*bKAPP*bLAMD*aMU*bN*aXI*aOMICRON*aPI*aRHO*aTHETA SYMBOL*aSIGMA*aTAU*aUPSIL",
  "ON*aPHI*cC*bPS*aOMEGAzbNABLzbSMALL ALPH(bBET(bGAMM(bDELT(aEPSILON(aZETA(d(dTH(cIO(bKAPP(bLAMD(",
  "aMU(bN(aXI(aOMICRON(aPI(aRHO(aFINAL SIGMA(f(aTAU(aUPSILON(aPHI(cC(bPS(aOMEGAzaPARTIAL DIFFEREN",
  "TIALzbEPSILON SYMBOzhTHETAziKAPPzhPHIzhRHOzhPInaSANS-SERIF BOLD CAPITAL ALPHA:bBET:bGAMM:bDELT",
  ":aEPSILON:aZETA:d:dTH:cIO:bKAPP:bLAMD:aMU:bN:aXI:aOMICRON:aPI:aRHO:aTHETA SYMBOL:aSIGMA:aTAU:a",
  "UPSILON:aPHI:cC:bPS:aOMEGA%bNABL%bSMALL ALPH,bBET,bGAMM,bDELT,aEPSILON,aZETA,d,dTH,cIO,bKAPP,b",
  "LAMD,aMU,bN,aXI,aOMICRON,aPI,aRHO,aFINAL SIGMA,f,aTAU,aUPSILON,aPHI,cC,bPS,aOMEGA%aPARTIAL DIF",
  "FERENTIAL%bEPSILON SYMBO%hTHETA%iKAPP%hPHI%hRHO%hPI%aITALIC CAPITAL ALPHA]bBET]bGAMM]bDELT]aEP",
  "SILON]aZETA]d]dTH]cIO]bKAPP]bLAMD]aMU]bN]aXI]aOMICRON]aPI]aRHO]aTHETA SYMBOL]aSIGMA]aTAU]aUPSI",
  "LON]aPHI]cC]bPS]aOMEGA.bNABL.bSMALL ALPH@bBET@bGAMM@bDELT@aEPSILON@aZETA@d@dTH@cIO@bKAPP@bLAMD",
  "@aMU@bN@aXI@aOMICRON@aPI@aRHO@aFINAL SIGMA@f@aTAU@aUPSILON@aPHI@cC@bPS@aOMEGA.aPARTIAL DIFFERE",
  "NTIAL.bEPSILON SYMBO.hTHETA.iKAPP.hPHI.hRHO.hPInaBOLD CAPITAL DIGAMMAsjSMAL~1D7CEsaDIGIT ZEROy",
  "aONEyaTWOzaHREEyaFOURzaIVEyaSIXzaEVENyaEIGHTyaNINEnaDOUBLE-STRUCK DIGIT ZERO*aONE*aTWO+aHREE*a",
  "FOUR+aIVE*aSIX+aEVEN*aEIGHT*aNINEnaSANS-SERIF DIGIT ZERO&aONE&aTWO(aHREE&aFOUR(aIVE&aSIX(aEVEN",
  "&aEIGHT&aNINEyaBOLD DIGIT ZERO,aONE,aTWO.aHREE,aFOUR.aIVE,aSIX.aEVEN,aEIGHT,aNINEnaMONOSPACE D",
  "IGIT ZERO%aONE%aTWO&aHREE%aFOUR&aIVE%aSIX&aEVEN%aEIGHT%aNINEaaSIGNWRITING HAND-FIST INDEXrgCIR",
  "CLEsgUPrgOVALrgHINGErhANGLraFIST INDEX BENTrlCIRCLErlFIST THUMB UNDERwaINDEX RAISED KNUCKLE$aC",
  "UPPED$cHING+a LOWraCIRCLE INDEX HINGErbFIST INDEX MIDDLrnCIRCLEraFIST INDEX MIDDLE BENT,aRAISE",
  "D KNUCKLES,aHINGED$nUP $aHINGED MIDDLE UP$aMIDDLE CONJOINED]a INDEX BENT^fMIDDLE^aCUPPED^cHING",
  ".cROSSrvCIRCLEraFIST MIDDLE BENT OVER INDEXwaINDEX BENT OVER MIDDLE$aMIDDLE THUMBrtCIRCLEraFIS",
  "T INDEX MIDDLE STRAIGHT THUMB BENT,bBENT THUMB STRAIGH,bTHUMB BEN,aHINGED SPREAD THUMB SIDE$mU",
  "P MIDDLE HINGE|aUMB CONJOINED$aHINGED MIDDLE UP THUMB SIDE$aMIDDLE UP SPREAD THUMB FORWARD,bTH",
  "UMB CUPPE@cIRCL?cHOOK@cINGwaTHUMB BETWEEN INDEX MIDDLE STRAIGHTwaINDEX MIDDLE CONJOINED THUMB ",
  "SIDE|aUMB SIDE CONJOINED|aUMB SIDE BENTwaMIDDLE THUMB HOOKED INDEX UPwdINDEX THUMB HOOKED MIDD",
  "LE$aMIDDLE CONJOINED HINGED THUMB SIDE.nROSS.aONJOINED THUMB FORWARD^nCUPPED waMIDDLE THUMB CU",
  "PPED INDEX UPwdINDEX THUMB CUPPED MIDDLEwdMIDDLE THUMB CIRCLED INDEX|aX HINGEDwaINDEX THUMB AN",
  "GLED OUT MIDDLE UP?kIN+kCIRCLED$aMIDDLE THUMB CONJOINED HINGED?aANGLED OUT|awaMIDDLE THUMB ANG",
  "LED OUT INDEX UP|aNDEX CROSSED@aINDEX UPwaINDEX THUMB HOOKED MIDDLE HINGEDsaLAT FOUR FINGERS+a",
  " BENT,aHINGED,cCONJOIN]a SPLITraCLAW FOUR FINGERS CONJOINEDraFIST FOUR FINGERS CONJOINED BENTr",
  "aHINGE FOUR FINGERS CONJOINEDrbFLAT FIVE FINGERS SPREAwtHEEL waFIVE FINGERS SPREAD FOUR BENTw%",
  "HEEL wfFIVE FINGERS SPREADwyHEEL waFIVE FINGERS SPREAD THUMB FORWARDrbCUP FIVE FINGERS SPREA>a",
  " OPENrzHINGEraOVAL FIVE FINGERS SPREADrbFLAT FIVE FINGERS SPREAD HINGE|aD THUMB SIDE|aD NO THU",
  "MBvava BETWEEN PALM FACINGSwaHEELwaTHUMB SIDEwkHEEL waTHUMB BENT$aFORWARDwaSPLIT INDEX THUMB S",
  "IDE$bCENTR+a THUMB SIDE^a BENT$aLITTLEraCLAWva THUMB SIDEwaNO THUMBwaTHUMB FORWARDraHOOK CURLI",
  "CUEvaraCUP OPENuaua OPEN THUMB SIDEvkvaOPEN NO THUMBvivaOPEN THUMB FORWARDvntaRLICUE OPENzasbI",
  "RCLraOVALva THUMB SIDEwaNO THUMBwaTHUMB FORWARDraHINGE OPEN#a THUMB FORWARDwawa SMALLxaOPEN TH",
  "UMB SIDExkxaOPEN NO THUMBxixaTHUMB SIDE TOUCHING INDEX%aBETWEEN MIDDLE RINGraANGLEraFIST INDEX",
  " MIDDLE RINGrsCIRCLErtHINGrtANGLraHINGE LITTLEraFIST INDEX MIDDLE RING BENT>aCONJOINEDr$HINGEr",
  "aFIST LITTLE DOWN*a RIPPLE STRAIGHT?aCURVED+cOTHERS CIRCL%aUPwjTHUMB UNDER rkCIRCLErkOVALrkANG",
  "LEraFIST LITTLE RAISED KNUCKLE%aBENT%aTOUCHES THUMB&ernHINGErgFIST LITTLE INDEXrtHINGEraANGLE ",
  "LITTLE INDEX THUMB INDEX THUMB OUT|a THUMBraFIST LITTLE INDEXrnCIRCLEroHINGroANGLraFIST INDEX ",
  "MIDDLE LITTLEruCIRCLErvHINGxaRINGraANGLE INDEX MIDDLE LITTLErhFIST INDEX MIDDLE CROSSr!CIRCLEr",
  "aFIST RING DOWNraHINGE RING DOWN INDEX THUMB HOOK MIDDLEraANGLE RING DOWN MIDDLE THUMB INDEX C",
  "ROSSraFIST RING UP#aRAISED KNUCKLE#cLITTrmCIRCLErmOVALrmANGLErcFIST RING MIDD*a CONJOINED+aRAI",
  "SED KNUCKLES#aINDEX#aTHUMBrlHOOKraFIST INDEX RING LITTLErsCIRCLEsaURLICUE INDEX RING LITTLE ON",
  "raHOOK INDEX RING LITTLE OUT>aIN>aUNDERraCUP INDEX RING LITTLErsHINGEraANGLE INDEX RING LITTLE",
  " OUT>araFIST MIDDLE DOWNraHINGE MIDDLEraFIST MIDDLE UPrkCIRCLEraFIST MIDDLE RAISED KNUCKLE%bUP",
  " THUMB SIDraHOOK MIDDLE THUMBraFIST MIDDLE THUMB LITTLE%g%gRING rtCIRCLEsaURLICUE MIDDLE RING ",
  "LITTLE ONtaP MIDDLE RING LITTLErtHINGEraANGLE MIDDLE RING LITTLE OUT@aIN?araCIRCLE MIDDLE RING",
  " LITTLE BENTsaLAW MIDDLE RING LITTLE CONJOINED|aNED SIDEraHOOK MIDDLE RING LITTLE CONJOINED OU",
  "T|aNED IN|aNEDscINGE INDEX HINGraFIST INDEX THUMB SIDErrHINGEraFIST INDEX THUMB SIDE THUMB DIA",
  "GONAL^aCONJOINED^aBENT<fINDEX<fBOTH<aINDEX HINGE+aFORWARD INDEX STRAIGHT|b BEN+aHOOK+aCURLICUE",
  ":bVE THUMB INSIDr(CLAWraFIST INDEX THUMB CURVE THUMB UNDER,aIRCLEraCUP INDEX THUMB)a OPENrrHIN",
  "GE,aLARGE+a+a SMALLraANGLE INDEX THUMB OUT,aIN+argFIST#a HEEL$bSIDE DIAGONA*aCONJOINED*aBENT$a",
  "FORWARD$aBETWEEN INDEX MIDDLE.aMIDDLE RING.aRING LITTLE$aUNDER TWO FINGERS$oOV$iUNDER THREE+iF",
  "OUR$bOVER FOUR RAISED KNUCKLEvava HEELmaTOUCH SINGLEscMULTIPsaBETWEENmaGRASP SINGLEscMULTIPsaB",
  "ETWEENmaSTRIKE SINGLEtcMULTIPtaBETWEENmaBRUSH SINGLEscMULTIPsaBETWEENmaRUB SINGLEqcMULTIPqaBET",
  "WEENmaSURFACE SYMBOLSuaBETWEENnaQUEEZE LARGE SINGLEuhSMALLucLARGE MULTIPujSMALLvaEQUENTIALmaFL",
  "ICK LARGE SINGLEshSMALLscLARGE MULTIPsjSMALLtaEQUENTIALmaSQUEEZE FLICK ALTERNATINGmaMOVEMENT-H",
  "INGE UP DOWN LARGE,aSMALL&bSEQUENTIA#lDOWN#aUP DOWN ALTERNATING LARGE|aSMALL#aSIDE TO SIDE SCI",
  "SSORSvaWALLPLANE FINGER CONTACTvuFLOORvaWALLPLANE SINGLE STRAIGHT SMALL|aMEDIUM|aLARGE|aLARGES",
  "T;aWRIST FLEX(aDOUBLE STRAIGHT;aWRIST FLEX;aALTERNATING|aNG WRIST FLEX(aCROSS(aTRIPLE STRAIGHT",
  " MOVEMENT;aWRIST FLEX;aALTERNATING|aNG WRIST FLEX(aBEND SMALL.aMEDIUM.aLARGE(aCORNER SMALL;aME",
  "DIUM;aLARGE;aROTATION)aHECK SMALL:aMEDIUM:aLARGE(aBOX SMALL,aMEDIUM,aLARGE(aZIGZAG SMALL;aMEDI",
  "UM;aLARGE(aPEAKS SMALL:aMEDIUM:aLARGEmbTRAVEL-WALLPLANE ROTATION-WALLPLANE SINGL|c DOUB|a ALTE",
  "RNATING;aFLOORPLANE SINGLE|cE DOUB|aE ALTERNATING%dSHAK%aARM SPIRAL SINGLE>cDOUB>cTRIPmaMOVEME",
  "NT-DIAGONAL AWAY SMALL,aMEDIUM,aLARGE>aST&aTOWARDS SMALL;aMEDIUM;aLARGE[aST&aBETWEEN AWAY SMAL",
  "L[aMEDIUM[aLARGE|aEST;aTOWARDS SMALL_aMEDIUM_aLARGE|aARGESTvaFLOORPLANE SINGLE STRAIGHT SMALL|",
  "a MEDIUM|a LARGE|a LARGEST<aWRIST FLEX)aDOUBLE STRAIGHT<aWRIST FLEX<aALTERNATING|aING WRIST FL",
  "EX)aCROSS)aTRIPLE STRAIGHT MOVEMENT<aWRIST FLEX<aALTERNATING MOVEMENT|aING WRIST FLEX)aBEND)aC",
  "ORNER SMALL<aMEDIUM<aLARGE*aHECK)aBOX SMALL.aMEDIUM.aLARGE)aZIGZAG SMALL<aMEDIUM<aLARGE)aPEAKS",
  " SMALL;aMEDIUM;aLARGEmbTRAVEL-FLOORPLANE ROTATION-FLOORPLANE SINGL|cNE DOUB|aNE ALTERNATING<aW",
  "ALLPLANE SINGLE|cE DOUB|aE ALTERNATING&dSHAKmaMOVEMENT-WALLPLANE CURVE QUARTER SMALL^aMEDIUM^a",
  "LARGE|aRGEST:aHALF-CIRCLE SMALL|aE MEDIUM|aE LARGE|aE LARGEST:aTHREE-QUARTER CIRCLE SMALL|aTER",
  " CIRCLE MEDIUM(aHUMP SMALL.aMEDIUM.aLARGE(aLOOP SMALL.aMEDIUM.aLARGE.bSMALL DOUBL(aWAVE CURVE ",
  "DOUBLE SMALL|aE MEDIUM|aE LARGE@aTRIPLE SMALL|aE MEDIUM|aE LARGE(aCURVE THEN STRAIGHT.aD CROSS",
  " SMALL]aMEDIUMmaROTATION-WALLPLANE SINGLE(cDOUB(bALTERNATmaMOVEMENT-WALLPLANE SHAKING(aCURVE H",
  "ITTING FRONT WALL(tHUMP(uLOO(tWAVEmuROTATION-WALLPLANE SINGL(vDOUB(tALTERNATINGmaMOVEMENT-WALL",
  "PLANE CURVE HITTING CHEST(oHUMP(pLOO(oWAVEmpROTATION-WALLPLANE SINGL(qDOUB(oALTERNATINGmaMOVEM",
  "ENT-WALLPLANE WAVE DIAGONAL PATH SMALL|aTH MEDIUM|aTH LARGEvaFLOORPLANE CURVE HITTING CEILING ",
  "SMALL|aEILING LARGE)bHUMP HITTING CEILING SMALL DOUBL|hILING LARGE|cILING SMALL TRIP|hILING LA",
  "RGE)cLOOP HITTING CEILING SMALL SING|hILING LARGE|cILING SMALL DOUB|hILING LARGE)aWAVE HITTING",
  " CEILING SMALL|aILING LARGEmaROTATION-FLOORPLANE SINGLE HITTING CEILING)sDOUB)qALTERNATINGmaMO",
  "VEMENT-FLOORPLANE CURVE HITTING FLOOR SMALL|aLOOR LARGE)bHUMP HITTING FLOOR SMALL DOUBL|hOOR L",
  "ARGE|cOOR TRIPLE SMALL TRIP|hOOR TRIPLE LARGE)cLOOP HITTING FLOOR SMALL SING|hOOR LARGE|cOOR S",
  "MALL DOUB|hOOR LARGE)aWAVE HITTING FLOOR SMALL|aOOR LARGEmaROTATION-FLOORPLANE SINGLE HITTING ",
  "FLOOR)qDOUB)oALTERNATINGmaMOVEMENT-FLOORPLANE CURVE SMALL;aMEDIUM;aLARGE[aST;aCOMBINED)aHUMP S",
  "MALL)hLOO)aWAVE SNAKE;aMALL:aLARGEmbROTATION-FLOORPLANE SINGL)cDOUB)aALTERNATINGmaMOVEMENT-FLO",
  "ORPLANE SHAKING PARALLELvaWALLPLANE ARM CIRCLE SMALL SINGLE@hMEDIUM@cSMALL DOUB@hMEDIUMvcFLOOR",
  "PLANE ARM CIRCLE HITTING WALL SMALL SING|hING WALL MEDIUM|hING WALL LARGE|cING WALL SMALL DOUB",
  "|hING WALL MEDIUM|hING WALL LARGEvcWALLPLANE WRIST CIRCLE FRONT SING|cNT DOUBvcFLOORPLANE WRIS",
  "T CIRCLE HITTING WALL SING|cTTING WALL DOUBvcWALLPLANE FINGER CIRCLES SING_cDOUBvcFLOORPLANE F",
  "INGER CIRCLES HITTING WALL SING|cHITTING WALL DOUBmaDYNAMIC ARROWHEAD SMALL&aLARGEuaFASTuaSLOW",
  "uaTENSEuaRELAXEDuaSIMULTANEOUS)a ALTERNATINGuaEVERY OTHER TIMEuaGRADUALmaHEADqa RIMraMOVEMENT-",
  "WALLPLANE STRAIGHT.bTIL!bFLOORPLANE STRAIGH!aWALLPLANE CURVE!lFLOORzb CIRCLmaFACE DIRECTION PO",
  "SITION NOSE FORWARD TILTING?aUP OR DOWN|aDOWN TILTINGmaEYEBROWS STRAIGHT UP&aNEUTRAL&aDOWNmfDR",
  "EAMY EYEBROWS NEUTRAL$aDOWN NEUTRAL$iUP$aNEUTRAL UPmaFOREHEAD NEUTRALvaCONTACTvaWRINKLEDmaEYES",
  " OPENraSQUEEZEDrcCLOSpa BLINK SINGLEwcMULTIPpaS HALF OPENrfWIDEraHALF CLOSEDraWIDENING MOVEMEN",
  "Tpa WINKpaLASHES UPwaDOWNwaFLUTTERINGpaGAZE-WALLPLANE STRAIGHT;a DOUBLE<aALTERNATINGuaFLOORPLA",
  "NE STRAIGHT<a DOUBLE>aALTERNATINGuaWALLPLANE CURVEDumFLOORuaWALLPLANE CIRCLINGmaCHEEKS PUFFEDt",
  "aNEUTRALtaSUCKEDmaTENSE CHEEKS HIGHzaMIDDLEzaLOWmaEARSmaNOSE NEUTRALraCONTACTraWRINKLESsdIGGma",
  "AIR BLOWING OUTqaSUCKING INqaBLOW SMALL ROTATIONSqqSUCKmaBREATH INHALEteEXmaMOUTH CLOSED NEUTR",
  "ALzaFORWARDzaCONTACTsaSMILExa WRINKLEDyaOPENsbFROWxa WRINKLEDyaOPENsaOPEN CIRCLExaFORWARDxbWRI",
  "NKLExaOVAL#a WRINKLED$aYAWNxaRECTANGLE)a WRINKLED*aYAWNsaKISSwa FORWARDxbWRINKLEsaTENSExa FORW",
  "ARDybSUCKEmaLIPS PRESSED TOGETHERpc LOWER OVER UPPqcUPPER OVER LOWmaMOUTH CORNERSsaWRINKLES SI",
  "NGLE#cDOUBmaTONGUE STICKING OUT FARtaLICKING LIPStfTIP BETWEENxaTOUCHING INSIDE MOUTHtaINSIDE ",
  "MOUTH RELAXEDtaMOVES AGAINST CHEEKtaCENTRE STICKING OUT!aINSIDE MOUTHncEEra MOVEMENTsaON TONGU",
  "E#a MOVEMENTvaLIPSza MOVEMENTsaBITE LIPSmaMOVEMENT-WALLPLANE JAWvjFLOORmaNECKmaHAIRmaEXCITEMEN",
  "TmaSHOULDER HIP SPINEzaPOSITIONSmaWALLPLANE SHOULDER HIP MOVEmxFLOORmaSHOULDER TILTING FROM WA",
  "ISTmaTORSO-WALLPLANE STRAIGHT STRETCH$aCURVED BENDsaFLOORPLANE TWISTINGmaUPPER BODY TILTING FR",
  "OM HIP JOINTSmaLIMB COMBINATIONraLENGTH-1ya2ya3ya4ya5ya6ya7maFINGERmaLOCATION-WALLPLANE SPACEv",
  "lFLOORua HEIGHTvaWIDTHvcDEPvaHEAD NECKvaTORSOvaLIMBS DIGITSmaCOMMAmaFULL STOPmaSEMICOLONmfmaPA",
  "RENTHESIS~1DA9BmaFILL MODIFIER-2!a3!a4!a5!a6~1DAA1maROTATION MODIFIER-2&a3&a4&a5&a6&a7&a8&a9&a",
  "10(a1(a2(a3(a4(a5(a6~1DF00aaLATIN SMALL LETTER FENG DIGRAPH WITH TRILLtaREVERSED SCRIPT GgcLET",
  "TER SMALL CAPITAL TURNEDgaSMALL LETTER REVERSED KgaLETTER SMALL CAPITAL L WITH BELTgaSMALL LET",
  "TER LEZH WITH RETROFLEX HOOKtaTURNED Y WITH BELTtaREVERSED ENGtaTURNED R WITH LONG LEG AND RET",
  "ROFLEX HOOKut WITH HOOKgpLETTER RETROFLEX CLICK WITHgaSMALL LETTER ESH WITH DOUBLE BAR;a AND C",
  "URLtfTURNED T WITHgkLETTER INVERTED GLOTTAL STOPnkSTRETCHED CoaMALL CAPITAL TURNED KgbSMALL LE",
  "TTER L WITH FISHHOOteDEZH DIGRAPH WITH PALATAL tnL WITH BELT ANDtnENG WITHtsTURNED RtnR WITH F",
  "ISHHOOK ANDtnTESH DIGRAPH WITHttEZtfDEZH DIGRAPH WITH RETROFLEXtpI WITH STROKE ANDtpO WITHtuTE",
  "SH DIGRAPHtuCtaS WITH CURL~1E000aaCOMBINING GLAGOLITIC LETTER AZU$aBUKY$aVEDE$aGLAGOLI$aDOBRO$",
  "aYESTU$aZHIVETE~1E008%aEMLJA$aIZHE%dNITIAL I%a$bDJERV$aKAKO$aLJUDIJE$bMYSLIT$aNASHI$aONU$aPOKO",
  "JI$bRITS$aSLOVO$bTVRID$aUKU$bFRIT$bHER~1E01B$aSHTA$aTSI$bCHRIV$aSHA$aYERU(aI%bAT~1E023%aU$aSMA",
  "LL YUS~1E026$aYO$aIOTATED SMALL YUS$eBIG$hIOTATED $aFITA~1E100abNYIAKENG PUACHUE HMONG LETTER ",
  "M&bTS&bNT&c&bH&bN&bX&bNK&bC&bL&bS&bZ&bNC(bTS&bK&bD&bNY(bR&bV&bNTX&d&bF&bR&bQ&bY&bNQ&bP&bXY&bNP",
  "&bDL&cNP&aHAH&aMLA&cP&bG&bRR&b(aA&aI&aU&aO(aO&aE(aE&aW~1E130xaTONE-B$aM$aJ$aV$aS$aG$aDxaSIGN F",
  "OR PERSON)aTHING)aLOCATION)aANIMAL)aINVERTEBRATE$aXW XWyaYLLABLE LENGTHENER~1E140xaDIGIT ZERO%",
  "aONE%aTWO&aHREE%aFOUR&aIVE%aSIX&aEVEN%aEIGHT%aNINE~1E14ExaLOGOGRAM NYAJxaCIRCLED CA~1E290abTOT",
  "O LETTER PmbBmbTmbDmbKmbGmbMmbNnbGmbSmbCHmbYmbWmbJmbHmbRmbLmaImbBREATHY maIUmcBREATHY mbmaEmbB",
  "REATHY maEOmcBREATHY mbmaAEmcBREATHY maAfaSIGN RISING TONE~1E2C0aaWANCHO LETTER AApaobBobCobDo",
  "bGobYobPHobLobNobPobTpbHobFobSpbHobJobZobWobVobKoaOoaAUoaRAobMobKHocoaEoaIoaNGAoaUoaLLHAobTSpb",
  "RoaONGocAApcocIoaONobEobAAoaNYAoaUENoaYIHhaTONE TUPpaNImbKOpaNIhaDIGIT ZEROnaONEnaTWOoaHREEnaF",
  "OURoaIVEnaSIXoaEVENnaEIGHTnaNINE~1E2FFhaNGUN SIGN~1E7E0aaETHIOPIC SYLLABLE HHYAvaUvaIvaAAvaEEw",
  "avaO~1E7E8saGURAGE HHWAsaHHWIvaEEwa~1E7EDsaGURAGE MWI#aEE~1E7F0zaQWI#aEE$azaBWI#aEEzaKWI#aEE$a",
  "zaGWI#aEE$azaFWI#aEEzaPWI#aEE~1E800aaMENDE KIKAKUI SYLLABLE M001 KI!a2 KA!a3 KUza65 KEEzb95 Kz",
  "a76 KOOzb48 Kya179 KUAya004 WI!a5 WA!a6 WUya126 WEEzb18 W!a4 WOOyb045 Wya194 WUIzb43 WEyb061 W",
  "Vza49 WVAya139 WVEya007 MIN!b8 MA!b9 MUzb59 MEzb94 MOyb154 MUAzb89 MUEya010 BI!a1 BA!a2 BUya15",
  "0 BEEyb097 Bya103 BOOzb38 Bya013 I!a4 A!a5 Uya163 EEzb00 za65 OOzb47 za37 EI!a1 IN!d5zb95 Azb7",
  "8 Eya019 SIza20 SA!a1 SUya162 SEEzb16 Sza36 SOOyb079 Sya196 SIAya025 LI!a6 LA!a7 LUza84 LEEzb7",
  "3 Lza54 LOOyb153 Lza10 LONG LEya016 DI!a7 DA!a8 DUza89 DEEya180 DOO!b1 Dya022 TI!a3 TA!a4 TUza",
  "91 TEEzb55 Tya104 TOOyb069 Tza28 JI!a9 JAza30 JUya157 JEEzb13 Jza60 JOOyb063 Jyd175 LONGya031 ",
  "YI!a2 YA!a3 YUya109 YEEyb080 Yya141 YOOzb21 Yya034 FI!a5 FA!a6 FUza78 FEE!b5 Fya133 FOOyb088 F",
  "ya197 FUAza01 FANyb037 NI!b8 NA!b9 NUyb117 NEzb69 NOza76 HIya041 HAya186 HUya040 HEEzb96 Hza42",
  " HOOyb140 Hya083 HEEIya128 HOOUya053 HINyb130 HAyb087 HUzb52 HEyb193 HOyb046 HUAza90 NGGIza43 ",
  "NGGAza82 NGGUya115 NGGEEzb46 NGGza56 NGGOOzb20 NGGza59 NGGAAzb27 NGGUya086 LONG NGGEya106 LONG",
  " NGGOOzb83 LONG NGGza55 GIza11 GAza68 GUza90 GEEza66 GUEI!a7 GUANzb84 NGEyb057 NGOyb177 NGUAya",
  "068 PIza99 PAza50 PUza81 PEEzb51 Pya102 POOyb066 Pya145 MBIya062 MBAya122 MBUya047 MBEEyf188yb",
  "072 MBya172 MBOO!b4 MBza87 MBUUza61 LONG MBEza05 LONG MBOOzb42 LONG MBza32 KPIya092 KPAza74 KP",
  "Uza44 KPEEyb108 KPza12 KPOOzb58 KPza24 GBIya056 GBAya148 GBUya093 GBEEyb107 GBya071 GBOO!b0 GB",
  "ya171 RAza23 NDI!a9 NDA!a5 NDUza91 NDEEzb19 NDya067 NDOO!b4 NDya152 NJAza92 NJUza49 NJEEza34 N",
  "JOOza82 VI!a5 VAza51 VUza73 VEEyb085 Vya144 VOOyb077 Vya164 NYINyb058 NYAyb170 NYUyb098 NYEzb6",
  "0 NYO~1E8C7oaDIGIT ONEuaTWOvaHREEuaFOURvaIVEuaSIXvaEVENuaEIGHTuaNINEoaCOMBINING NUMBER TEENS*c",
  "(bHUNDRED(cTHOUSAN)iEN T(kHUNDRED(bMILLION~1E900aaADLAM CAPITAL LETTER ALIFvaDAALIvaLAAMvbMIIv",
  "aBAvaSINNYIIYHEvbPvbBHvaRAvaEvaFAvaIvaOvaDHAvaYHEvaWAWvaNUNvaKAFvaYAvaUvaJIIMvaCHIvaHAvaQAAFva",
  "GAvbNYvaTUvaNHAvbVvbKHvaGBEvaZALvaKPOvaSHAgaSMALL LETTER ALIFtaDAALItaLAAMtbMIItaBAtaSINNYIIYH",
  "EtbPtbBHtaRAtaEtaFAtaItaOtaDHAtaYHEtaWAWtaNUNtaKAFtaYAtaUtaJIIMtaCHItaHAtaQAAFtaGAtbNYtaTUtaNH",
  "AtbVtbKHtaGBEtaZALtaKPOtaSHAgaALIF LENGTHENERglVOWELgaGEMINATION MARKgaHAMZAgaCONSONANT MODIFI",
  "ERgsGEMINATE gaNUKTAhaASALIZATION MARK~1E950gaDIGIT ZEROmaONEmaTWOnaHREEmaFOURnaIVEmaSIXnaEVEN",
  "maEIGHTmaNINE~1E95EgaINITIAL EXCLAMATION MARKojQUES~1EC71aaINDIC SIYAQ NUMBER ONEtaTWOuaHREEta",
  "FOURuaIVEtaSIXuaEVENtaEIGHTtaNINEtaTENuaWENTYucHIRtdFOucIFtcSIXucEVENtcEIGHtcNINEtaONE HUNDRED",
  "tiTWOuiHREEtiFOURuiIVEtiSIXuiEVENtiEIGHTtiNINEtbONE THOUSANtjTWOujHREEtjFOURujIVEtjSIXujEVENtj",
  "EIGHTtjNINEtjTENujWENTYulHIRtmFOulIFtlSIXulEVENtlEIGHtlNINEtaLAKHxaANmaLAKH MARKmaNUMBER KAROR",
  "yaANtaPREFIXED ONE$aTWO%aHREE$aFOUR%aIVE$aSIX%aEVEN$aEIGHT$aNINEmaPLACEHOLDERmcFRACTION ONE QU",
  "ARTzaHALFvaTHREE QUARTERSmaRUPEE MARKmaNUMBER ALTERNATE ONE%aTWO&aEN THOUSANDmaALTERNATE LAKH ",
  "MARK~1ED01aaOTTOMAN SIYAQ NUMBER ONEvaTWOwaHREEvaFOURwaIVEvaSIXwaEVENvaEIGHTvaNINEvaTENwaWENTY",
  "wcHIRvdFOwcIFvcSIXwcEVENvcEIGHvcNINEvaONE HUNDREDviTWOwiHREEviFOURwiIVEviSIXwiEVENviEIGHTviNIN",
  "EvbONE THOUSANvjTWOwjHREEvjFOURwjIVEvjSIXwjEVENvjEIGHTvjNINEvjTENwjWENTYwlHIRvmFOwlIFvlSIXwlEV",
  "ENvlEIGHvlNINEoaMARRATANoaALTERNATE NUMBER TWO)aHREE(aFOUR)aIVE(aSIX)aEVEN(aEIGHT(aNINE(aTEN(a",
  "FOUR HUNDRED(iSIX(bTWO THOUSAN)jENoaFRACTION ONE HALF#aSIXTH~1EE00aaARABIC MATHEMATICAL ALEFua",
  "BEHuaJEEMuaDAL~1EE05uaWAWuaZAINuaHAHucTubYEuaKAFuaLAMubMEEuaNOONubSEEubAIuaFEHuaSADuaQAFuaREHu",
  "aSHEENuaTEHvcHubKHAuaTHALuaDADuaZAHuaGHAINuaDOTLESS BEH$aNOON$aFEH$aQAF~1EE21uaINITIAL BEH$aJE",
  "EM~1EE24$aHEH~1EE27%bA~1EE29$bYE$aKAF$aLAM$bMEE$aNOON$bSEE$bAI$aFEH$aSAD$aQAF~1EE34$aSHEEN$aTE",
  "H%cH$bKHA~1EE39$aDAD~1EE3B$aGHAIN~1EE42uaTAILED JEEM~1EE47#aHAH~1EE49#bYE~1EE4B#aLAM~1EE4D#aNO",
  "ON#bSEE#bAI~1EE51#aSAD#aQAF~1EE54#aSHEEN~1EE57#aKHAH~1EE59#aDAD~1EE5B#aGHAIN~1EE5D#bDOTLESS NO",
  "O~1EE5F,aQAF~1EE61uaSTRETCHED BEH&aJEEM~1EE64&aHEH~1EE67(bA&cT&bYE&aKAF~1EE6C&aMEEM&aNOON&bSEE",
  "&bAI&aFEH&aSAD&aQAF~1EE74&aSHEEN&aTEH(cH&bKHA~1EE79&aDAD&aZAH&aGHAIN&aDOTLESS BEH~1EE7E;cF~1EE",
  "80uaLOOPED ALEF#aBEH#aJEEM#aDAL#aHEH#aWAW#aZAIN#aHAH#cT#bYE~1EE8B#aLAM#bMEE#aNOON#bSEE#bAI#aFE",
  "H#aSAD#aQAF#aREH#aSHEEN#aTEH$cH#bKHA#aTHAL#aDAD#aZAH#aGHAIN~1EEA1uaDOUBLE-STRUCK BEH+aJEEM+aDA",
  "L~1EEA5+aWAW+aZAIN+aHAH+cT+bYE~1EEAB+aLAM+bMEE+aNOON+bSEE+bAI+aFEH+aSAD+aQAF+aREH+aSHEEN+aTEH,",
  "cH+bKHA+aTHAL+aDAD+aZAH+aGHAIN~1EEF0uaOPERATOR MEEM WITH HAH WITH TATWEEL%bHAH WITH DA~1F000aa",
  "MAHJONG TILE EAST WINDnfSOUTHnfWESTnfNORTHnaRED DRAGONnhGREENnhWHITEnaONE OF CHARACTERSnoTWOoo",
  "HREEnoFOURooIVEnoSIXooEVENnoEIGHTnoNINEnbONE OF BAMBOOnlTWOolHREEnlFOURolIVEnlSIXolEVENnlEIGHT",
  "nlNINEnbONE OF CIRCLEnlTWOolHREEnlFOURolIVEnlSIXolEVENnlEIGHTnlNINEnaPLUMnaORCHIDnaBAMBOOnaCHR",
  "YSANTHEMUMnaSPRINGoaUMMERnaAUTUMNnaWINTERncJOKnaBACK~1F030afDOMINO TILE HORIZONTALwa-00-00#a1#",
  "a2#a3#a4#a5#a6ya1-00#a1#a2#a3#a4#a5#a6ya2-00#a1#a2#a3#a4#a5#a6ya3-00#a1#a2#a3#a4#a5#a6ya4-00#a",
  "1#a2#a3#a4#a5#a6ya5-00#a1#a2#a3#a4#a5#a6ya6-00#a1#a2#a3#a4#a5#a6maVERTICAL BACKua-00-00za1za2z",
  "a3za4za5za6wa1-00za1za2za3za4za5za6wa2-00za1za2za3za4za5za6wa3-00za1za2za3za4za5za6wa4-00za1za",
  "2za3za4za5za6wa5-00za1za2za3za4za5za6wa6-00za1za2za3za4za5za6~1F0A0aaPLAYING CARD BACKnaACE OF",
  " SPADESnkTWOokHREEnkFOURokIVEnkSIXokEVENnkEIGHTnkNINEnkTENnkJACKnkKNIGHTnkQUEENnkKING~1F0B1nbA",
  "CE OF HEARTnkTWOokHREEnkFOURokIVEnkSIXokEVENnkEIGHTnkNINEnkTENnkJACKnkKNIGHTnkQUEENnkKINGnaRED",
  " JOKER~1F0C1naACE OF DIAMONDSnmTWOomHREEnmFOURomIVEnmSIXomEVENnmEIGHTnmNINEnmTENnmJACKnmKNIGHT",
  "nmQUEENnmKINGnaBLACK JOKER~1F0D1naACE OF CLUBSnjTWOojHREEnjFOURojIVEnjSIXojEVENnjEIGHTnjNINEnj",
  "TENnjJACKnjKNIGHTnjQUEENnjKINGnaWHITE JOKERnaFOOLnaTRUMP-1ta2ta3ta4ta5ta6ta7ta8ta9ta10ua1ua2ua",
  "3ua4ua5ua6ua7ua8ua9ta20ua1~1F100aaDIGIT ZERO FULL STOPlaCOMMAggONEggTWOhgHREEggFOURhgIVEggSIXh",
  "gEVENggEIGHTggNINEcaNGBAT CIRCLED SANS-SERIF DIGIT ZEROi%NEGATIVE aaCIRCLED ZERO WITH SLASHiaA",
  "NTICLOCKWISE ARROWiaDOLLAR SIGN WITH OVERLAID BACKSLASHaaPARENTHESIZED LATIN CAPITAL LETTER A,",
  "aB,aC,aD,aE,aF,aG,aH,aI,aJ,aK,aL,aM,aN,aO,aP,aQ,aR,aS,aT,aU,aV,aW,aX,aY,aZaaTORTOISE SHELL BRA",
  "CKETED LATIN CAPITAL LETTER SaaCIRCLED ITALIC LATIN CAPITAL LETTER C.aRiaCDiaWZbaOPYLEFT SYMBO",
  "LaaSQUARED LATIN CAPITAL LETTER A%aB%aC%aD%aE%aF%aG%aH%aI%aJ%aK%aL%aM%aN%aO%aP%aQ%aR%aS%aT%aU%",
  "aV%aW%aX%aY%aZiaHVibMiaSDjaSiaPPViaWCaaNEGATIVE CIRCLED LATIN CAPITAL LETTER A;aB;aC;aD;aE;aF;",
  "aG;aH;aI;aJ;aK;aL;aM;aN;aO;aP;aQ;aR;aS;aT;aU;aV;aW;aX;aY;aZaaRAISED MC SIGNifDifRaaCIRCLED CCj",
  "a WITH OVERLAID BACKSLASHiaHUMAN FIGUREaaNEGATIVE SQUARED LATIN CAPITAL LETTER A;aB;aC;aD;aE;a",
  "F;aG;aH;aI;aJ;aK;aL;aM;aN;aO;aP;aQ;aR;aS;aT;aU;aV;aW;aX;aY;aZaaCROSSED NEGATIVE SQUARED LATIN ",
  "CAPITAL LETTER PaaNEGATIVE SQUARED ICraPArbSraABraWCaaSQUARE DJgaD CLjbOOiaFREEiaIDiaNEWjaGiaO",
  "KiaSOSiaUP WITH EXCLAMATION MARKiaVSiaTHREE DiaSECOND SCREENiaTWO KicFOURicEIGHTiaFIVE POINT O",
  "NEikSEVENiaTWENTY-TWO POINT TWOiaSIXTY PieONE HUNDRED TWENiaLATIN SMALL LETTER DiaHCjaDRjaI-RE",
  "SibLOSSLESiaSHViaUHDibVOaaMASK WORK SYMBOL~1F1E6aaREGIONAL INDICATOR SYMBOL LETTER A*aB*aC*aD*",
  "aE*aF*aG*aH*aI*aJ*aK*aL*aM*aN*aO*aP*aQ*aR*aS*aT*aU*aV*aW*aX*aY*aZaaSQUARE HIRAGANA HOKAgaD KAT",
  "AKANA KOKOraSA~1F210iaCJK UNIFIED IDEOGRAPH-624B&a5B57(a3CCiaKATAKANA DEiaCJK UNIFIED IDEOGRAP",
  "H-4E8C&a591A&a89E3&a5929&a4EA4&a6620&a7121&a6599&a524D(aF8C(a18D&a65B0&a521D&a7D42(a51F&a8CA9&",
  "a58F0(a439&a6F14(a295(b35&a4E00*a9&a904A&a5DE6&a4E2D&a53F3&a6307&a8D70&a6253&a7981(aA7A&a5408&",
  "a6E80(a709*a8&a7533&a5272(a5B6&a914D~1F240aaTORTOISE SHELL BRACKETED CJK UNIFIED IDEOGRAPH-672",
  "C|a4E09|a4E8C|a5B89|b70B|a6253|a76D7|a52DD|a6557~1F250aaCIRCLED IDEOGRAPH ADVANTAGEtaCCEPT~1F2",
  "60aaROUNDED SYMBOL FOR FUtbLtbSHOtaXItcSHUANGtbCA~1F300aaCYCLONEaaFOGGYaaCLOSED UMBRELLAaaNIGH",
  "T WITH STARSabSUNRISE OVER MOUNTAINhaaaCITYSCAPE AT DUSKaaSUNSET OVER BUILDINGSaaRAINBOWaaBRID",
  "GE AT NIGHTaaWATER WAVEaaVOLCANOaaMILKY WAYaaEARTH GLOBE EUROPE-AFRICAmaAMERICASnaSIA-AUSTRALI",
  "AaaGLOBE WITH MERIDIANSaaNEW MOON SYMBOLamWAXING CRESCENTamFIRST QUARTERamWAXING GIBBOUSamFULL",
  "amWANING GIBBOUSamLAST QUARTERamWANING CRESCENTaaCRESCENT MOONaaNEW MOON WITH FACEapFIRST QUAR",
  "TERazLAapFULLalSUaaGLOWING STARaiSHOOTabTHERMOMETEaaBLACK DROPLETaaWHITE SUNja WITH SMALL CLOU",
  "DkgBEHINDwa WITH RAINaplaSNOWlaLIGHTNINGlaTORNADOaaFOGaaWIND BLOWING FACEaaHOT DOGaaTACOabBURR",
  "ITaaCHESTNUTaaSEEDLINGaaEVERGREEN TREEafDECIDUOUSafPALMaaCACTUSaaHOT PEPPERaaTULIPaaCHERRY BLO",
  "SSOMaaROSEaaHIBISCUSaaSUNFLOWERaaBLOSSOMaaEAR OF MAIZEhbRICaaHERBaaFOUR LEAF CLOVERaaMAPLE LEA",
  "FafFALLENaaLEAF FLUTTERING IN WINDaaMUSHROOMaaTOMATOaaAUBERGINEaaGRAPESaaMELONafWATERaaTANGERI",
  "NEaaLEMONaaBANANAaaPINEAPPLEafRED agGREENaaPEARdaCHaaCHERRIESaaSTRAWBERRYaaHAMBURGERaaSLICE OF",
  " PIZZAaaMEAT ON BONEaaPOULTRY LEGaaRICE CRACKERfaBALLaaCOOKED RICEbgURRY ANaaSTEAMING BOWLbaPA",
  "GHETTIaaBREADaaFRENCH FRIESaaROASTED SWEET POTATOabDANGaaODENaaSUSHIaaFRIED SHRIMPbaISH CAKE W",
  "ITH SWIRL DESIGNaaSOFT ICE CREAMbaHAVED ICEaaICE CREAMaaDOUGHNUTaaCOOKIEbaHOCOLATE BARbaANDYaa",
  "LOLLIPOPaaCUSTARDaaHONEY POTaaSHORTCAKEaaBENTO BOXaaPOT OF FOODaaCOOKINGaaFORK AND KNIFEabTEAC",
  "UP WITHOUT HANDLaaSAKE BOTTLE AND CUPaaWINE GLASSagCOCKTAILaaTROPICAL DRINKaaBEER MUGaaCLINKIN",
  "G BEER MUGSaaBABY BOTTLEabFORK AND KNIFE WITH PLATaaBOTTLE WITH POPPING CORKaaPOPCORNabRIBBOaa",
  "WRAPPED PRESENTaaBIRTHDAY CAKEaaJACK-O-LANTERNaaCHRISTMAS TREEaaFATHER CHRISTMASbbIREWORKia SP",
  "ARKLERaaBALLOONaaPARTY POPPERaaCONFETTI BALLaaTANABATA TREEaaCROSSED FLAGSaaPINE DECORATIONaaJ",
  "APANESE DOLLSaaCARP STREAMERaaWIND CHIMEaaMOON VIEWING CEREMONYaaSCHOOL SATCHELaaGRADUATION CA",
  "PaaHEART WITH TIP ON THE LEFTaaBOUQUET OF FLOWERSaaMILITARY MEDALaaREMINDER RIBBONaaMUSICAL KE",
  "YBOARD WITH JACKSaaSTUDIO MICROPHONEaaLEVEL SLIDERaaCONTROL KNOBSabBEAMED ASCENDING MUSICAL NO",
  "TEhwDEacFILM FRAMabADMISSION TICKETaaCAROUSEL HORSEaaFERRIS WHEELaaROLLER COASTERaaFISHING POL",
  "E AND FISHaaMICROPHONEbaOVIE CAMERAabCINEMaaHEADPHONEabARTIST PALETTaaTOP HATabCIRCUS TENabTIC",
  "KEaaCLAPPER BOARDaaPERFORMING ARTSaaVIDEO GAMEaaDIRECT HITaaSLOT MACHINEaaBILLIARDSaaGAME DIEa",
  "aBOWLINGaaFLOWER PLAYING CARDSaaMUSICAL NOTEcaLTIPLE MUSICAL NOTESaaSAXOPHONEaaGUITARaaMUSICAL",
  " KEYBOARDaaTRUMPETaaVIOLINaaMUSICAL SCOREaaRUNNING SHIRT WITH SASHaaTENNIS RACQUET AND BALLaaS",
  "KI AND SKI BOOTaaBASKETBALL AND HOOPaaCHEQUERED FLAGaaSNOWBOARDERacRUNNacSURFbaPORTS MEDALaaTR",
  "OPHYaaHORSE RACINGaaAMERICAN FOOTBALLajRUGBYaaSWIMMERacWEIGHT LIFTacGOLFaaRACING MOTORCYCLEhaC",
  "ARaaCRICKET BAT AND BALLaeVOLLEYaeFIELD HOCKEY STICK AND aaICE HOCKEY STICK AND PUCKaaTABLE TE",
  "NNIS PADDLE AND BALLaaSNOW CAPPED MOUNTAINaaCAMPINGaaBEACH WITH UMBRELLAbaUILDING CONSTRUCTION",
  "aaHOUSE BUILDINGSaaCITYSCAPEaaDERELICT HOUSE BUILDINGajCLASSICALaaDESERTga ISLANDaaNATIONAL PA",
  "RKaaSTADIUMaaHOUSE BUILDINGgaWITH GARDENaaOFFICE BUILDINGaaJAPANESE POST OFFICEamEUROPEANaaHOS",
  "PITALaaBANKaaAUTOMATED TELLER MACHINEaaHOTELafLOVE aaCONVENIENCE STOREaaSCHOOLaaDEPARTMENT STO",
  "REaaFACTORYaaIZAKAYA LANTERNaaJAPANESE CASTLEahEUROPEANaaWHITE PENNANTaiBLACKaaWAVING WHITE FL",
  "AGhfBLACKaaROSETTEahBLACK aaLABELaaBADMINTON RACQUET AND SHUTTLECOCKbaOW AND ARROWaaAMPHORAaaE",
  "MOJI MODIFIER FITZPATRICK TYPE-1-2)a3)a4)a5)a6aaRATaaMOUSEaaOXaaWATER BUFFALOaaCOWaaTIGERaaLEO",
  "PARDaaRABBITabCAaaDRAGONaaCROCODILEacWHAaaSNAILdaKEabHORSaaRAMaaGOATaaSHEEPaaMONKEYaaROOSTERaa",
  "CHICKENaaDOGabPIaaBOARaaELEPHANTaaOCTOPUSaaSPIRAL SHELLaaBUGaaANTaaHONEYBEEabLADY BEETLaaFISHa",
  "eTROPICAL aeBLOWaaTURTLEaaHATCHING CHICKagBABYakFRONT-FACING aaBIRDaaPENGUINaaKOALAaaPOODLEaaD",
  "ROMEDARY CAMELagBACTRIANaaDOLPHINaaMOUSE FACEafCOWafTIGERafRABBITagCAafDRAGONabSPOUTING WHALab",
  "HORSE FACafMONKEYafDOGagPIagFROafHAMSTERafWOLFafBEARafPANDAbbIG NOSbaAW PRINTSaaCHIPMUNKaaEYES",
  "dabaARaaNOSEaaMOUTHaaTONGUEaaWHITE UP POINTING BACKHAND INDEXgyDOWNgyLEFTgzRIGHaaFISTED HAND S",
  "IGNakWAVINGakOKafTHUMBS UPhfDOWNafCLAPPING HANDSalOPENabCROWaaWOMANS HATaaEYEGLASSESaaNECKTIEa",
  "aT-SHIRTaaJEANSabDRESaaKIMONOaaBIKINIaaWOMANS CLOTHESaaPURSEaaHANDBAGaaPOUCHaaMANS SHOEafATHLE",
  "TICafHIGH-HEELEDaaWOMANS SANDALhaBOOTSacFOOTPRINaaBUST IN SILHOUETTEeoSbaOYaaGIRLaaMANadWOaaFA",
  "MILYaaMAN AND WOMAN HOLDING HANDSapTWO MEerWOaaPOLICE OFFICERaaWOMAN WITH BUNNY EARSaaBRIDE WI",
  "TH VEILaaPERSON WITH BLOND HAIRaaMAN WITH GUA PI MAOjaTURBANacOLDER MgdWOaaBABYaaCONSTRUCTION ",
  "WORKERaaPRINCESSaaJAPANESE OGREjaGOBLINaaGHOSTaaBABY ANGELaaEXTRATERRESTRIAL ALIENaaALIEN MONS",
  "TERaaIMPaaSKULLaaINFORMATION DESK PERSONabGUARDSMAaaDANCERaaLIPSTICKaaNAIL POLISHaaFACE MASSAG",
  "EaaHAIRCUTaaBARBER POLEabSYRINGaaPILLaaKISS MARKaaLOVE LETTERaaRINGaaGEM STONEaaKISSaaBOUQUETa",
  "bCOUPLE WITH HEARaaWEDDINGaaBEATING HEARTbgROKENaaTWO HEARTSaaSPARKLING HEARTajGROWaaHEART WIT",
  "H ARROWaaBLUE HEARTagGREENagYELLOWagPURPLEaaHEART WITH RIBBONaaREVOLVING HEARTSaaHEART DECORAT",
  "IONaaDIAMOND SHAPE WITH A DOT INSIDEaaELECTRIC LIGHT BULBaaANGER SYMBOLaaBOMBaaSLEEPING SYMBOL",
  "ahCOLLISIONahSPLASHING SWEATaaDROPLETbaASH SYMBOLaaPILE OF POOaaFLEXED BICEPSaaDIZZY SYMBOLaaS",
  "PEECH BALLOONaiTHOUGHTaaWHITE FLOWERaaHUNDRED POINTS SYMBOLaaMONEY BAGaaCURRENCY EXCHANGEaaHEA",
  "VY DOLLAR SIGNaaCREDIT CARDaaBANKNOTE WITH YEN SIGNofDOLLARofEUROofPOUNDaaMONEY WITH WINGSaaCH",
  "ART WITH UPWARDS TREND AND YEN SIGNaaSEATaaPERSONAL COMPUTERaaBRIEFCASEaaMINIDISCaaFLOPPY DISK",
  "aaOPTICAL DISCaaDVDaaFILE FOLDERalOPEN aaPAGE WITH CURLfaFACING UPaaCALENDARaiTEAR-OFF aaCARD ",
  "INDEXbaHART WITH UPWARDS TRENDllDOWNaaBAR CHARTaaCLIPBOARDaaPUSHPINahROUND aaPAPERCLIPaaSTRAIG",
  "HT RULERagTRIANGULARaaBOOKMARK TABSaaLEDGERaaNOTEBOOKia WITH DECORATIVE COVERaaCLOSED BOOKafOP",
  "ENahGREafBLUEagORANGaaBOOKSaaNAME BADGEaaSCROLLaaMEMOaaTELEPHONE RECEIVERacPAGaaFAX MACHINEaaS",
  "ATELLITE ANTENNAaaPUBLIC ADDRESS LOUDSPEAKERaaCHEERING MEGAPHONEaaOUTBOX TRAYaiINaaPACKAGEaaE-",
  "MAIL SYMBOLaaINCOMING ENVELOPEabENVELOPE WITH DOWNWARDS ARROW ABOVaaCLOSED MAILBOX WITH LOWERE",
  "D FLAGuhRAISazOPENshLOWERaaPOSTBOXeaAL HORNaaNEWSPAPERaaMOBILE PHONEma WITH RIGHTWARDS ARROW A",
  "T LEFTaaVIBRATION MODEaaMOBILE PHONE OFFaaNO MOBILE PHONESabANTENNA WITH BARaaCAMERAga WITH FL",
  "ASHaaVIDEO CAMERAaaTELEVISIONaaRADIOaaVIDEOCASSETTEaaFILM PROJECTORaaPORTABLE STEREObaRAYER BE",
  "ADSabTWISTED RIGHTWARDS ARROWahCLOCKWISE RIGHTWARDS AND LEFTWARDS OPEN CIRCLE|aARROWS WITH CIR",
  "CLED ONE OVERLAYkaDOWNWARDS AND UPWARDS OPEN CIRCLE ARROWSa|ANTICLOaaLOW BRIGHTNESS SYMBOLasHI",
  "GHaaSPEAKER WITH CANCELLATION STROKEhaha WITH ONE SOUND WAVEnaTHREE SOUND WAVESaaBATTERYaaELEC",
  "TRIC PLUGaaLEFT-POINTING MAGNIFYING GLASSa#RIGHaaLOCK WITH INK PENaaCLOSED LOCK WITH KEYadaaLO",
  "CKaeOPEN aaBELLea WITH CANCELLATION STROKEbaOOKMARKaaLINK SYMBOLaaRADIO BUTTONaaBACK WITH LEFT",
  "WARDS ARROW ABOVEa#ENDamON WITH EXCLAMATION MARK WITH LEFT RIGHTamSOON WITH RIGHTWARDSarTOP WI",
  "TH UPaaNO ONE UNDER EIGHTEEN SYMBOLaaKEYCAP TENaaINPUT SYMBOL FOR LATIN CAPITAL LETTERSxjSMALr",
  "dNUMBrbSYMBOLrbLATIN LETTERaaFIREaaELECTRIC TORCHacWRENaaHAMMERaaNUT AND BOLTaaHOCHOaaPISTOLaa",
  "MICROSCOPEafTELEaaCRYSTAL BALLaaSIX POINTED STAR WITH MIDDLE DOTaaJAPANESE SYMBOL FOR BEGINNER",
  "aaTRIDENT EMBLEMaaBLACK SQUARE BUTTONaoWHITEaaLARGE RED CIRCLEghBLUEgaORANGE DIAMONDgjBLUajSMA",
  "LL ORANGgjBLUaaUP-POINTING RED TRIANGLEawDOWNanUP-POINTING SMALLa$DOWNacLOWER RIGHT SHADOWED W",
  "HITE CIRCa&UPPabCIRCLED CROSS POMMEbaROSS POMMEE WITH HALF-CIRCLE BELOWmaaaNOTCHED LEFT SEMICI",
  "RCLE WITH THREE DOTSi$RIGHaaSYMBOL FOR MARKS CHAPTERaaWHITE LATIN CROSSamHEAVYagCELTICaaOM SYM",
  "BOLaaDOVE OF PEACEaaKAABAaaMOSQUEacSYNAGOGaaMENORAH WITH NINE BRANCHESaaBOWL OF HYGIEIAaaCLOCK",
  " FACE ONE OCLOCKlhTWOmhHREElhFOURmhIVElhSIXmhEVENlhEIGHTlhNINElhTENljELEVlhTWELVElaONE-THIRTYl",
  "hTWOmhHREElhFOURmhIVElhSIXmhEVENlhEIGHTlhNINElhTENljELEVlhTWELVEaaRIGHT SPEAKERna WITH ONE SOU",
  "ND WAVEtaTHREE SOUND WAVESaaBULLHORNia WITH SOUND WAVESaaRINGING BELLaaBOOKaaCANDLEaaMANTELPIE",
  "CE CLOCKaaBLACK SKULL AND CROSSBONESaaNO PIRACYaaHOLEaaMAN IN BUSINESS SUIT LEVITATINGaaSLEUTH",
  " OR SPYaaDARK SUNGLASSESaaSPIDERga WEBaaJOYSTICKaaMAN DANCINGaaLEFT HAND TELEPHONE RECEIVERaaT",
  "ELEPHONE RECEIVER WITH PAGEaaRIGHT HAND TELEPHONE RECEIVERaaWHITE TOUCHTONE TELEPHONEauBLACKaa",
  "TELEPHONE ON TOP OF MODEMaaCLAMSHELL MOBILE PHONEabBACK OF ENVELOPajSTAMPEDaaENVELOPE WITH LIG",
  "HTNINGaaFLYING ENVELOPEajPEN OVER STAMPEDaaLINKED PAPERCLIPSaaBLACK PUSHPINaaLOWER LEFT PENCIL",
  "laBALLPOINT PENleFOUNTAINlaPAINTBRUSHlaCRAYONbaEFT WRITING HANDaaTURNED OK HAND SIGNaaRAISED H",
  "AND WITH FINGERS SPLAYEDb(EVERSED RjaTHUMBS UP SIGNqfDOWNjaVICTORY HANDjbHAND WITH MIDDLE FING",
  "ER EXTENDEbaAISED HAND WITH PART BETWEEN MIDDLE AND RING FINGERSaaWHITE DOWN POINTING LEFT HAN",
  "D INDEXagSIDEWAYS WHITE LEFT POINTINGpqRIGHjqBLACK LEFpqRIGHagBLACK LEFT POINTING BACKHANDgzRI",
  "GHagSIDEWAYS WHITE UP POINTINGppDOWNjpBLACK UPppDOWNagBLACK UP POINTING BACKHANDgyDOWNgaHEARTa",
  "aDESKTOP COMPUTERaaKEYBOARD AND MOUSEaaTHREE NETWORKED COMPUTERSaaPRINTERbbOCKET CALCULATOaaBL",
  "ACK HARD SHELL FLOPPY DISKaxWHITEasSOFTaaTAPE CARTRIDGEaaWIRED KEYBOARDaaONE BUTTON MOUSEanTWO",
  "bnHREEbaRACKBALLaaOLD PERSONAL COMPUTERaaHARD DISKaaSCREENabPRINTER ICOafFAXafOPTICAL DISCaaDO",
  "CUMENT WITH TEXTsa AND PICTUREohanFRAMElaTILESlaAN XaaBLACK FOLDERagagOPEN aaCARD INDEX DIVIDE",
  "RSfaFILE BOXaaFILE CABINETaaEMPTY NOTEka PAGEnaDaaNOTEea PAGEhaDaaEMPTY DOCUMENTgaPAGEkaSaaDOC",
  "UMENTaaPAGEeaSaaWASTEBASKETaaSPIRAL NOTE PADheCALENDARaaDESKTOP WINDOWaaMINIMIZEbfAXaaOVERLAPa",
  "aCLOCKWISE RIGHT AND LEFT SEMICIRCLE ARROWSbaANCELLATION XaaINCREASE FONT SIZE SYMBOLaxDEaaCOM",
  "PRESSIONaaOLD KEYaaROLLED-UP NEWSPAPERaaPAGE WITH CIRCLED TEXTabSTOCK CHARaaDAGGER KNIFEaaLIPS",
  "aaSPEAKING HEAD IN SILHOUETTEabTHREE RAYS ABOVlaBELOWlaLEFTlbRIGHaaLEFT SPEECH BUBBLEapRIGHaaT",
  "WO SPEECH BUBBLESbpHREEaaLEFT THOUGHT BUBBLEaqRIGHahLEFT ANGERaoRIGHahMOODalLIGHTNING oaaaBALL",
  "OT BOX WITH BALLOThaSCRIPT XhiBOX WITH jjLDjlX WITH BOaaLIGHT CHECK MARKabBALLOT BOX WITH BOLD",
  " CHECaaWORLD MAPaaMOUNT FUJIaaTOKYO TOWERaaSTATUE OF LIBERTYbaILHOUETTE OF JAPANaaMOYAIaaGRINN",
  "ING FACEna WITH SMILING EYESaaFACE WITH TEARS OF JOYaaSMILING FACE WITH OPEN MOUTH$a AND SMILI",
  "NG EYES*aCOLD SWEAT*aTIGHTLY-CLOSED EYESsaHALOtaORNSaaWINKING FACEaaSMILING FACE WITH SMILING ",
  "EYESaaFACE SAVOURING DELICIOUS FOODaaRELIEVED FACEaaSMILING FACE WITH HEART-SHAPED EYESscSUNGL",
  "ASSdaRKING FACEafNEUTRALafEXPRESSIONLESSafUNAMUSEDaaFACE WITH COLD SWEATaaPENSIVE FACEafCONFUS",
  "EDehOUNDafKISSINGaaFACE THROWING A KISSabKISSING FACE WITH SMILING EYEsfCLOSEDaaFACE WITH STUC",
  "K-OUT TONGUE!a AND WINKING EYE(aTIGHTLY-CLOSED EYESaaDISAPPOINTED FACEahWORRIafANGRYafPOUTINGa",
  "iCRYaiPERSEVERaaFACE WITH LOOK OF TRIUMPHaaDISAPPOINTED BUT RELIEVED FACEaaFROWNING FACE WITH ",
  "OPEN MOUTHaaANGUISHED FACEafFEARFULafWEARYagSLEEPafTIREDafGRIMACINGaiLOUDLY CRYaaFACE WITH OPE",
  "N MOUTHaaHUSHED FACEaaFACE WITH OPEN MOUTH AND COLD SWEATfaSCREAMING IN FEARaaASTONISHED FACEa",
  "jFLUafSLEEPINGafDIZZYaaFACE WITHOUT MOUTHja MEDICAL MASKaaGRINNING CAT FACE WITH SMILING EYESa",
  "aCAT FACE WITH TEARS OF JOYaaSMILING CAT FACE WITH OPEN MOUTHwaHEART-SHAPED EYESaaCAT FACE WIT",
  "H WRY SMILEaaKISSING CAT FACE WITH CLOSED EYESaaPOUTING CAT FACEamCRYajWEARYafSLIGHTLY FROWNIN",
  "GjiSMILafUPSIDE-DOWNaaFACE WITH ROLLING EYESkaNO GOOD GESTUREkiOKaaPERSON BOWING DEEPLYabSEE-N",
  "O-EVIL MONKEapHEARapSPEAKaaHAPPY PERSON RAISING ONE HANDaaPERSON RAISING BOTH HANDS IN CELEBRA",
  "TIONhaFROWNINGhaWITH POUTING FACEmaFOLDED HANDSaaNORTH WEST POINTING LEAFavSOUaqNORTH EAavSOUa",
  "qTURNED NORTH WEhvSOUhqNORTH EAhvSOUafNORTH WEST POINTING VINEa!SOUavNORTH EAa!SOUavHEAVY NORT",
  "H WEg!SOUgvNORTH EAg!SOUaaNORTH WEST POINTING BUDauSOUapNORTH EAauSOUapHEAVY NORTH WEguSOUgpNO",
  "RTH EAguSOUbaOLLOW QUILT SQUARE ORNAMENT$a IN BLACK SQUAREaaSOLID QUILT SQUARE ORNAMENT#a IN B",
  "LACK SQUAREaaLEFTWARDS ROCKETamUPamRIGHTamDOWNabSCRIPT LIGATURE ET ORNAMENa#HEAVY amLIGATURE O",
  "PENazHEAVY gjAMPERSANDatSWASHbjANS-SERIF HEAVY DOUBLE TURNED COMMA QUOTATION MARKy%r.LOW ajHEA",
  "VY INTERROBANGavSANS-SERIFa(HEAVY aaVERY HEAVY SOLIDUSlhREVERSE aaCHECKER BOARDanREVERSE baOCK",
  "ETaaHELICOPTERaaSTEAM LOCOMOTIVEaaRAILWAY CARaaHIGH-SPEED TRAINqa WITH BULLET NOSEaaTRAINaaMET",
  "ROaaLIGHT RAILaaSTATIONaaTRAMea CARaaBUSadONCOMING adTROLLEYaaBUS STOPaaMINIBUSaaAMBULANCEabFI",
  "RE ENGINaaPOLICE CARakONCOMING aaTAXIaeONCOMING aaAUTOMOBILEakONCOMING acRECREATIONAL VEHICaaD",
  "ELIVERY TRUCKaaARTICULATED LORRYaaTRACTORaaMONORAILcaUNTAIN RAILWAYajSUSPENSIOadMOUNTAIN CABLE",
  "adAERIAL TRAMaaSHIPaaROWBOATaeSPEEDabHORIZONTAL TRAFFIC LIGHaqVERTICaaCONSTRUCTION SIGNaaPOLIC",
  "E CARS REVOLVING LIGHTabTRIANGULAR FLAG ON POSaaDOORaaNO ENTRY SIGNaaSMOKING SYMBOLaoNO ahPUT ",
  "LITTER IN ITS PLACEahDO NOT LITTERakPOTABLE WAauNON-aaBICYCLEaaNO BICYCLESaaBICYCLISTajMOUNTAI",
  "N aaPEDESTRIANaaNO PEDESTRIANSaaCHILDREN CROSSINGaaMENS SYMBOLalWOaaRESTROOMaaBABY SYMBOLaaTOI",
  "LETacWATER CLOSaaSHOWERaaBATHeaTUBaaPASSPORT CONTROLaaCUSTOMSaaBAGGAGE CLAIMaaLEFT LUGGAGEaaTR",
  "IANGLE WITH ROUNDED CORNERSaaPROHIBITED SIGNaaCIRCLED INFORMATION SOURCEaaBOYS SYMBOLaiGIRLaaC",
  "OUCH AND LAMPaaSLEEPING ACCOMMODATIONbaHOPPING BAGSaaBELLHOP BELLcaDaaPLACE OF WORSHIPaaOCTAGO",
  "NAL SIGNaaSHOPPING TROLLEYbaTUPAabPAGODaaHINDU TEMPLEbaUTaaELEVATOR~1F6DDaaPLAYGROUND SLIDEaaW",
  "HEELaaRING BUOYaaHAMMER AND WRENCHaaSHIELDaaOIL DRUMaaMOTORWAYaaRAILWAY TRACKaaMOTOR BOATaaUP-",
  "POINTING MILITARY AIRPLANEmimiSMALL aoajNORTHEAST-POINTINGabAIRPLANE DEPARTURjaARRIVING~1F6F0a",
  "aSATELLITEabONCOMING FIRE ENGINabDIESEL LOCOMOTIVaaPASSENGER SHIPaaSCOOTERahMOTOR aaCANOEaaSLE",
  "DaaFLYING SAUCERaaSKATEBOARDaaAUTO RICKSHAWaaPICKUP TRUCKaaROLLER SKATE~1F700abALCHEMICAL SYMB",
  "OL FOR QUINTESSENCwaAIRwaFIREwaEARTHwaWATERwaAQUAFORTIS!a REGIA)a-2#aVITAE)a-2waVINEGAR%a-2&a3",
  "waSULFURwgPHILOSOPHERS whBLACKwaMERCURY SUBLIMATE<a-2>a3waCINNABARwaSALTwaNITREwaVITRIOL%a-2wa",
  "ROCK SALT(a-2waGOLDwaSILVERwaIRON ORE&a-2waCROCUS OF IRONwkREGULwaCOPPER OREwkIRON-waSUBLIMATE",
  " OF COPPERwkCROCUS;a-2xaOPPER ANTIMONIATEwsSALT OF xaUBLIMATE OF SALT OF COPPERwaVERDIGRISwaTI",
  "N OREweLEADweANTIMONYwaSUBLIMATE OF ANTIMONYxmALTxpUBLIMATE OF SwmVINEGARwmREGULUS?a-2%a%a-2&a",
  "3&a4waALKALI$a-2waMARCASITEwaSAL-AMMONIACwbARSENIwaREALGAR%a-2waAURIPIGMENTwaBISMUTH OREwaTART",
  "AR$a-2waQUICK LIMEwaBORAX#a-2$a3waALUMwaOILwaSPIRITwaTINCTUREwaGUMwaWAXwaPOWDERwaCALXwaTUTTYwa",
  "CAPUT MORTUUMwaSCEPTER OF JOVEwaCADUCEUSwaTRIDENTwhSTARRED waLODESTONEwaSOAPwaURINEwaHORSE DUN",
  "GwaASHESwfPOT waBRICKwfPOWDERED waAMALGAMwbSTRATUM SUPER STRATU[a-2xaUBLIMATIONwaPRECIPITATEwa",
  "DISTILLzaSOLVE&a-2waPURIFYyaTREFACTIONwaCRUCIBLE&a-2(a3(a4(a5waALEMBICwaBATH OF MARY&aVAPOURSw",
  "aRETORTwaHOURwaNIGHTwfDAY-waMONTHwaHALF DRAM#aOUNCE~1F780abBLACK LEFT-POINTING ISOSCELES RIGHT",
  " TRIANGLg+UPg+RIGHTg+DOWNgcSLIGHTLY SMALL CIRCahMEDIUM BOLD WHITEaranHEAVYasVERY auEXTREMELahW",
  "HITE CIRCLE CONTAINING BLACK SMALLaaROUND TARGETaaBLACK TINY SQUAREghSLIGHTLY SMALLahLIGHT WHI",
  "TEanMEDIUManBOLDanHEAVYasVERY auEXTREMELahWHITE SQUARE CONTAINING BLACK VERY SMALL&hMEDIUMaaSQ",
  "UARE TARGETaaBLACK TINY DIAMONDgiVERY SMALLgoMEDIUMaoWHITE DIAMOND CONTAINING BLACK VERY(iMEDI",
  "UMaaDIAMOND TARGETaaBLACK TINY LOZENGEgiVERY SMALLgoMEDIUMaoWHITE LOZENGE CONTAINING BLACKaaTH",
  "IN GREEK CROSSamLIGHTamMEDIUMamBOLDaqVERY fmHEAVYatEXTREMELaaTHIN SALTIREaiLIGHTaiMEDIUMaiBOLD",
  "aiHEAVYanVERY apEXTREMELaaLIGHT FIVE SPOKED ASTERISKavMEDIUMavBOLDavHEAVYa!VERY a$EXTREMELaqLI",
  "GHT SIXauMEDIUMauBOLDauHEAVYazVERY a#EXTREMELaqLIGHT EIGHTawMEDIUMawBOLDawHEAVYa#VERY aaLIGHT ",
  "THREE POINTED BLACK STARazMEDIUMayafMEDIUM THREE POINTED PINWHEELafLIGHT FOUR POINTED BLACKayM",
  "EDIUMaxafMEDIUM FOUR POINTED PINWHEELa#REVERSE LIGHTafLIGHT FIVE POINTED BLACKayHEAVYatMEDIUM ",
  "SIXaxHEAVYafSIX POINTED PINWHEELafMEDIUM EIGHT POINTED BLACKazHEAVYa&VERY afHEAVY EIGHT POINTE",
  "D PINWHEELafLIGHT TWELVE POINTED BLACKa!HEAVYvfPINWHEELaaCIRCLED TRIANGLEaqNEGATIVE abCIRCLED ",
  "SQUARaoNEGATIVE ~1F7E0abLARGE ORANGE CIRCLghYELLOWghGREENghPURPLEghBROWNgbRED SQUARghBLUEgiORA",
  "NGghYELLOWghGREENghPURPLEghBROWN~1F7F0aaHEAVY EQUALS SIGN~1F800aaLEFTWARDS ARROW WITH SMALL TR",
  "IANGLE ARROWHEADa?UPa?RIGHTa?DOWNatLEFTWARDS ARROW WITH MEDIUMa@UPa@RIGHTa@DOWNatLEFTWARDS ARR",
  "OW WITH LARGEa?UPa?RIGHTa?DOWN~1F810akLEFTWARDS ARROW WITH SMALL EQUILATERALa]UPa]RIGHTa]DOWNa",
  "wLEFTWARDS ARROW WITHa;UPa;RIGHTa;DOWNa;HEAVY LEFTg;UPg;RIGHTg;DOWNgwLEFTWARDS ARROW WITH LARG",
  "Eg]UPg]RIGHTg]DOWNaaLEFTWARDS TRIANGLE-HEADED ARROW WITH NARROW SHAFTa^UPa^RIGHTa^DOWNagLEFTWA",
  "RDS TRIANGLE-HEADED ARROW WITH MEDIUMa^UPa^RIGHTa^DOWNagLEFTWARDS TRIANGLE-HEADED ARROW WITH B",
  "OLDa[UPa[RIGHTa[DOWNagLEFTWARDS TRIANGLE-HEADED ARROW WITH HEAVYa]UPa]RIGHTa]DOWNamLEFTWARDS T",
  "RIANGLE-HEADED ARROW WITH VERYa|UPWAa|RIGHTWAa|DOWNWAaaLEFTWARDS FINGER-POST ARROWaxUPaxRIGHTa",
  "xDOWNagLEFTWARDS SQUAREDatUPatRIGHTatDOWNaiLEFTWARDS COMPRESSawUPawRIGHTawDOWNarLEFTWARDS HEAV",
  "Ya$UPa$RIGHTa$DOWNagLEFTWARDS HEAVYarUParRIGHTarDOWN~1F850agLEFTWARDS SANS-SERIFawUPawRIGHTawD",
  "OWNarNORTH WESTgtEAaySOUgtWEasLEFT RIGHarUP DOWN~1F860agWIDE-HEADED LEFTWARDS LIGHT BARBmwUPmw",
  "RIGHTmwDOWNmrNORTH WESTstEAmySOUstWEmlLEFTWARDSmqUPmqRIGHTmqDOWNmlNORTH WESTsnEAmsSOUsnWEmlLEF",
  "TWARDS MEDIUMmxUPmxRIGHTmxDOWNmsNORTH WESTsuEAmzSOUsuWEmlLEFTWARDS HEAVYmwUPmwRIGHTmwDOWNmrNOR",
  "TH WESTstEAmySOUstWEmrLEFTWARDS VERYm#UPm#RIGHTm#DOWNmwNORTH WESTsyEAm%SOUsyWE~1F890aaLEFTWARD",
  "S TRIANGLE ARROWHEADayUPayRIGHTayDOWNatLEFTWARDS WHITE ARROW WITHINa[UPa[RIGHTa[DOWNaaLEFTWARD",
  "S ARROW WITH NOTCHED TAILa%UPa%RIGHTa%DOWNaaHEAVY ARROW SHAFT WIDTH ONEyaTWO THIRDSyaONE HALF$",
  "aTHIRDaaLEFTWARDS BOTTOM-SHADED WHITE ARROWasRIGHTWARDS BOTTOM atLEFTWARDS TOPa%RIGHasLEFTWARD",
  "S LEFT-auRIGHTWARDS RIGHa(LEFauRIGHTWARDS LEFaoLEFTWARDS BACK-TILTED SHADOWa<RIGHa$LEFTWARDS F",
  "RONTa>RIGHaaWHITE ARROW SHAFT WIDTH ONEyaTWO THIRDS~1F8B0aaARROW POINTING UPWARDS THEN NORTH W",
  "ESTphRIGHTWARDS THEN CURVING SOU~1F900aaCIRCLED CROSS FORMEE WITH FOUR DOTS!fTWOuaaaLEFT HALF ",
  "CIRCLE WITH FOUR DOTSwfTHREExfWOwaDOTqaaaDOWNWARD FACING HOOKqeNOTCHED qaHOOK WITH DOTqnNOTCHE",
  "D aaPINCHED FINGERSaaWHITE HEARTagBROWNaaPINCHING HANDaaZIPPER-MOUTH FACEalMONEYaaFACE WITH TH",
  "ERMOMETERaaNERD FACEafTHINKINGabFACE WITH HEAD-BANDAGabROBOT FACafHUGGINGaaSIGN OF THE HORNSaa",
  "CALL ME HANDafRAISED BACK OFaaLEFT-FACING FISTanRIGHaaHANDSHAKEea WITH INDEX AND MIDDLE FINGER",
  "S CROSSEDaaI LOVE YOU HAND SIGNaaFACE WITH COWBOY HATaaCLOWN FACEafNAUSEATEDaaROLLING ON THE F",
  "LOOR LAUGHINGaaDROOLING FACEaiLYaaFACE PALMaaSNEEZING FACEaaFACE WITH ONE EYEBROW RAISEDaaGRIN",
  "NING FACE WITH STAR EYEStaONE LARGE AND ONE SMALL EYEaaFACE WITH FINGER COVERING CLOSED LIPSaa",
  "SERIOUS FACE WITH SYMBOLS COVERING MOUTHbpMILING FACE WITH SMILING EYES AND HANDaaFACE WITH OP",
  "EN MOUTH VOMITINGaaSHOCKED FACE WITH EXPLODING HEADaaPREGNANT WOMANaaBREAST-FEEDINGaaPALMS UP ",
  "TOGETHERaaSELFIEabPRINCaaMAN IN TUXEDObaOTHER CHRISTMASaaSHRUGaaPERSON DOING CARTWHEELaaJUGGLI",
  "NGaaFENCERaaMODERN PENTATHLONaaWRESTLERSbaATER POLOaaHANDBALLaaDIVING MASKaaWILTED FLOWERaaDRU",
  "M WITH DRUMSTICKSabCLINKING GLASSEabTUMBLER GLASaaSPOONaaGOAL NETaaRIFLEaaFIRST PLACE MEDALamS",
  "ECONDanTHIRaaBOXING GLOVEaaMARTIAL ARTS UNIFORMaaCURLING STONEaaLACROSSE STICK AND BALLaeSOFTa",
  "aFLYING DISCaaCROISSANTaaAVOCADOaaCUCUMBERaaBACONaaPOTATOaaCARROTaaBAGUETTE BREADacGREEN SALab",
  "SHALLOW PAN OF FOObbTUFFED FLATBREAaaEGGaaGLASS OF MILKaaPEANUTSaaKIWIFRUITaaPANCAKESaaDUMPLIN",
  "GaaFORTUNE COOKIEaaTAKEOUT BOXaaCHOPSTICKSaaBOWL WITH SPOONaaCUP WITH STRAWbaOCONUTaaBROCCOLIa",
  "aPIEbaRETZELaaCUT OF MEATaaSANDWICHaaCANNED FOODaaLEAFY GREENaaMANGObaOON CAKEaaBAGELaaSMILING",
  " FACE WITH SMILING EYES AND THREE HEARTSaaYAWNING FACEaaSMILING FACE WITH TEARaaFACE WITH PART",
  "Y HORN AND PARTY HATkaUNEVEN EYES AND WAVY MOUTHaaOVERHEATED FACEafFREEZINGaaNINJAaaDISGUISED ",
  "FACEaaFACE HOLDING BACK TEARSfbWITH PLEADING EYEaaSARIaaLAB COATaaGOGGLESaaHIKING BOOTaaFLAT S",
  "HOEaaCRABaaLION FACEaaSCORPIONaaTURKEYaaUNICORN FACEabEAGLaaDUCKaaBATaaSHARKaaOWLaaFOX FACEaaB",
  "UTTERFLYaaDEERaaGORILLAaaLIZARDaaRHINOCEROSaaSHRIMPbaQUIDaaGIRAFFE FACEafZEBRAaaHEDGEHOGaaSAUR",
  "OPODaaT-REXaaCRICKETaaKANGAROOaaLLAMAaaPEACOCKaaHIPPOPOTAMUSaaPARROTaaRACCOONaaLOBSTERaaMOSQUI",
  "TObaICROBEaaBADGERaaSWANaaMAMMOTHaaDODOaaSLOTHaaOTTERbaRANGUTANaaSKUNKaaFLAMINGOaaOYSTERacBEAV",
  "baISONaaSEALaaGUIDE DOGaaPROBING CANEaaEMOJI COMPONENT RED HAIRqfCURLYqaBALDqaWHITE HAIRaaBONE",
  "aaLEGaaFOOTaaTOOTHaaSUPERHEROfaVILLAINbaAFETY VESTaaEAR WITH HEARING AIDaaMOTORIZED WHEELCHAIR",
  "blANUALbaECHANICAL ARMlaLEGaaCHEESE WEDGEbbUPCAKaaSALT SHAKERaaBEVERAGE BOXaaGARLICaaONIONaaFA",
  "LAFELaaWAFFLEaaBUTTERaaMATE DRINKaaICE CUBEaaBUBBLE TEAaaTROLLaaSTANDING PERSONakKNEELahDEAFaa",
  "FACE WITH MONOCLEaaADULTaaCHILDaaOLDER ADULTaaBEARDED PERSONaaPERSON WITH HEADSCARFhaIN STEAMY",
  " ROOMhaCLIMBINGhaIN LOTUS POSITIONaaMAGEaaFAIRYaaVAMPIREaaMERPERSONaaELFaaGENIEacZOMBaaBRAINaa",
  "ORANGE HEARTaaBILLED CAPaaSCARFaaGLOVESaaCOATaaSOCKSaaRED GIFT ENVELOPEaaFIRECRACKERaaJIGSAW P",
  "UZZLE PIECEabTEST TUBaaPETRI DISHaaDNA DOUBLE HELIXaaCOMPASSabABACUaaFIRE EXTINGUISHERaaTOOLBO",
  "XaaBRICKaaMAGNETaaLUGGAGEbbOTION BOTTLaaSPOOL OF THREADaaBALL OF YARNabSAFETY PIaaTEDDY BEARaa",
  "BROOMbaASKETaaROLL OF PAPERaaBAR OF SOAPaaSPONGEaaRECEIPTabNAZAR AMULEbaEUTRAL CHESS KINGoaQUE",
  "ENoaROOKoaBISHOPoaKNIGHToaPAWNaaWHITE CHESS KNIGHT ROTATED FORTY-FIVE DEGREESa>BLACKa>NEUTRALa",
  "iWHITE CHESS KING ROTATED NINETYmxQUEENmxROOKmxBISHOPmxKNIGHTmxPAWNaxBLACK CHESS KINGmxQUEENmx",
  "ROOKmxBISHOPmxKNIGHTmxPAWNaxNEUTRAL CHESS KINGoxQUEENoxROOKoxBISHOPoxKNIGHToxPAWNaiWHITE CHESS",
  " KNIGHT ROTATED ONE HUNDRED THIRTY-FIVEa|BLACK CHESSa|NEUTRAL CHESSaaWHITE CHESS TURNED KINGta",
  "QUEENtaROOKtaBISHOPtaKNIGHTtaPAWNaaBLACK CHESS TURNED KINGtaQUEENtaROOKtaBISHOPtaKNIGHTtaPAWNa",
  "aNEUTRAL CHESS TURNED KINGvaQUEENvaROOKvaBISHOPvaKNIGHTvaPAWNaaWHITE CHESS KNIGHT ROTATED TWO ",
  "HUNDRED TWENTY-FIVE DEGREESa|BLACK CHESSa|NEUTRAL CHESSaiWHITE CHESS KING ROTATED TWO HUNDRED ",
  "SEVENTYm.QUEENm.ROOKm.BISHOPm.KNIGHTm.PAWNa.BLACK CHESS KINGm.QUEENm.ROOKm.BISHOPm.KNIGHTm.PAW",
  "Na.NEUTRAL CHESS KINGo.QUEENo.ROOKo.BISHOPo.KNIGHTo.PAWNaiWHITE CHESS KNIGHT ROTATED THREE HUN",
  "DRED FIFTEENa|BLACK CHEa|NEUTRAL CHEaaWHITE CHESS EQUIHOPPERarBLACKarNEUTRALaaWHITE CHESS EQUI",
  "HOPPER ROTATED NINETY DEGREESa>BLACKa>NEUTRALaaWHITE CHESS KNIGHT-QUEENtaROOKtaBISHOPaaBLACK C",
  "HESS KNIGHT-QUEENtaROOKtaBISHOP~1FA60aaXIANGQI RED GENERALmaMANDARINmaELEPHANTmaHORSEmaCHARIOT",
  "naANNONmaSOLDIERiaBLACK GENERALoaMANDARINoaELEPHANToaHORSEoaCHARIOTpaANNONoaSOLDIER~1FA70aaBAL",
  "LET SHOESaaONE-PIECE SWIMSUITaaBRIEFSabSHORTaaTHONG SANDAL~1FA78aaDROP OF BLOODaaADHESIVE BAND",
  "AGEabSTETHOSCOPaaX-RAYaaCRUTCH~1FA80aaYO-YOaaKITEacPARACHUaaBOOMERANGaaMAGIC WANDaaPINATAaaNES",
  "TING DOLLS~1FA90aaRINGED PLANETaaCHAIRabRAZOaaAXEaaDIYA LAMPaaBANJOaaMILITARY HELMETaaACCORDIO",
  "NaaLONG DRUMaaCOINbaARPENTRY SAWaaSCREWDRIVERacLADDaaHOOKaaMIRRORaaWINDOWaaPLUNGERaaSEWING NEE",
  "DLEaaKNOTabBUCKEaaMOUSE TRAPaaTOOTHBRUSHaaHEADSTONEaaPLACARDaaROCKaaMIRROR BALLaaIDENTIFICATIO",
  "N CARDaaLOW BATTERYaaHAMSA~1FAB0aaFLYaaWORMaaBEETLEaaCOCKROACHaaPOTTED PLANTaaWOODaaFEATHERaaL",
  "OTUSaaCORALaaEMPTY NESTaaNEST WITH EGGS~1FAC0aaANATOMICAL HEARTaaLUNGSaaPEOPLE HUGGINGbaREGNAN",
  "T MANjbPERSObbERSON WITH CROW~1FAD0aaBLUEBERRIESbaELL PEPPERaaOLIVEaaFLATBREADaaTAMALEabFONDUa",
  "aTEAPOTaaPOURING LIQUIDaaBEANSaaJAR~1FAE0aaMELTING FACEajSALUaaFACE WITH OPEN EYES AND HAND OV",
  "ER MOUTHkaPEEKING EYEkaDIAGONAL MOUTHaaDOTTED LINE FACEaaBITING LIPbaUBBLES~1FAF0aaHAND WITH I",
  "NDEX FINGER AND THUMB CROSSEDabRIGHTWARDS HANalLEFafPALM DOWNffUPaaINDEX POINTING AT THE VIEWE",
  "RaaHEART HANDS~1FB00aaBLOCK SEXTANT-1oa2ob1oa3ob1ob2oc1oa4ob1ob2oc1ob3oc1oc2od1oa5ob1ob2oc1ob3",
  "oc2od1ob4oc1oc2od1oc3od1od2oe1oa6ob1ob2oc1ob3oc1oc2od1ob4oc1pc2oc3od1od2oe1ob5oc1oc2od1oc3od1o",
  "d2oe1oc4od1od2oe1od3oe1oe2aaLOWER LEFT BLOCK DIAGONAL LOWER MIDDLE LEFT TO LOWER CENTRE|aLOWER",
  " RIGHT!aUPPER MIDDLE LEFT TO LOWER CENTRE|aLOWER RIGHT)aLEFT TO LOWER CENTREgjRIGHT BLOCK DIAG",
  "ONAL UPPER MIDDLE LEFT TO UPP|a UPPER RIGHT#aLOWER MIDDLE LEFT TO UPPER CENTRE|a UPPER RIGHT*a",
  "LEFT TO UPPER CENTRE*aMIDDLE LEFT TO UPPER MIDDLE RIGHT*pCENTRE TO LOW*wLEFT*pCENTRE TO UPP*wL",
  "EFT*gCENTRE TO UPPERggLEFT BLOCK DIAGONAL UPPER CENTRE TO UPPER MIDDLE)wLEFT)pCENTRE TO LOW)wL",
  "EFT)gCENTRE TO LOWER)gMIDDLE LEFT TO LOWER MIDDLEaaUPPER RIGHT BLOCK DIAGONAL LOWER MIDDLE LEF",
  "T TO LOWER CENTRE|a LOWER RIGHT#aUPPER MIDDLE LEFT TO LOWER CENTRE|a LOWER RIGHT*aLEFT TO LOWE",
  "R CENTREgjLEFT BLOCK DIAGONAL UPPER MIDDLE LEFT TO UPP|aUPPER RIGHT!aLOWER MIDDLE LEFT TO UPPE",
  "R CENTRE|aUPPER RIGHT)aLEFT TO UPPER CENTRE)aMIDDLE LEFT TO UPPER MIDDLE RIGHT)pCENTRE TO LOW)",
  "wLEFT)pCENTRE TO UPP)wLEFT)gCENTRE TO UPPERggRIGHT BLOCK DIAGONAL UPPER CENTRE TO UPPER MIDDLE",
  "*wLEFT*pCENTRE TO LOW*wLEFT*gCENTRE TO LOWER*gMIDDLE LEFT TO LOWER MIDDLEgaAND RIGHT AND LOWER",
  " TRIANGULAR THREE QUARTERS BLOCKa)LEFT AND LOWER AND RIGHTa)UPPER AND LEFT AND LOWERa)LEFT AND",
  " UPPER AND RIGHTfgTRIANGULAR ONE QUARTERa%UPPERa%RIGHTa%LOWERaaVERTICAL ONE EIGHTH BLOCK-2!a3!",
  "a4!a5!a6!a7aaHORIZONTAL ONE EIGHTH BLOCK-2$a3$a4$a5$a6$a7aaLEFT AND LOWER ONE EIGHTH BLOCKjtUP",
  "Pa$RIGHktLOWa#UPPERaaHORIZONTAL ONE EIGHTH BLOCK-1358aaUPPER ONE QUARTER BLOCKggTHREE EIGHTHSg",
  "pFIVghTHREE QUARTERghSEVEN EIGHTHagRIGHT ONE QUARTERggTHREE EIGHTHSgpFIVghTHREE QUARTERghSEVEN",
  " EIGHTHaaLEFT HALF MEDIUM SHADEatRIGHasUPPERauLOWanINVERSEauUPPER HALF BLOCK AND LOWER HALF la",
  "INVERSE MEDIUM SHADE AND LOWER HALF BLOCK~1FB94alLEFT HALF INVERSE MEDIUM SHADE AND RIGHTaaCHE",
  "CKER BOARD FILLasINVERSE afHEAVY HORIZONTALafUPPER LEFT TO LOWER RIGHTggRIGHT TO LOWER LEFgaAN",
  "D LOWER TRIANGULAR HALF BLOCKawLEFT AND RIGHTaaUPPER LEFT TRIANGULAR MEDIUM SHADEgzRIGHa)LOWgz",
  "LEFaaBOX DRAWINGS LIGHT DIAGONAL UPPER CENTRE TO MIDDLE LEFT|bDLE RIGH$aMIDDLE LEFT TO LOWER C",
  "ENTRE,rRIGH$rUPPER CENTRE TO MIDDLE LEF|rDLE RIGH$aMIDDLE LEFT TO LOWER CENTRE TO MIDDLE RIGHT",
  "[zUPP$aUPPER CENTRE TO MIDDLE LEFT AND MIDDLE RIGHT TO LOWER CENTRE|rDLE RIGHT AND MIDDLE LEF|",
  "aDLE RIGHT TO LOWER CENTRE TO MIDDLE LEFT|bDLE LEFT TO LOWER CENTRE TO MIDDLE RIGH$aMIDDLE LEF",
  "T TO UPPER CENTRE TO MIDDLE RIGHT TO LOWER CENTRE,rRIGHT TO UPPER CENTRE TO MIDDLE LEF$aDIAMON",
  "DtaHORIZONTAL WITH VERTICAL STROKEaaARROWHEAD-SHAPED POINTERaaINVERSE CHECK MARKaaLEFT HALF RU",
  "NNING MANasRIGHaaINVERSE DOWNWARDS ARROW WITH TIP LEFTWARDSaaLEFTWARDS ARROW AND UPPER AND LOW",
  "ER ONE EIGHTH BLOCKa|RIGHTWarDOWNWARDS ARROW AND RIGHTa;UPaaLEFT HALF FOLDERanRIGHaaVOIDED GRE",
  "EK CROSSaaRIGHT OPEN SQUARED DOTaaNEGATIVE DIAGONAL CROSSsaMIDDLE RIGHT TO LOWER CENTREsaDIAMO",
  "NDaaWHITE HEAVY SALTIRE WITH ROUNDED CORNERSaaLEFT THIRD WHITE RIGHT POINTING INDEXa*MIDDLEa*R",
  "IGHTaaNEGATIVE SQUARED QUESTION MARKaaSTICK FIGUREma WITH ARMS RAISEDnaLEANING LEFTvbRIGHnaWIT",
  "H DRESSaaWHITE UP-POINTING CHEVRON~1FBF0aaSEGMENTED DIGIT ZEROqaONEqaTWOraHREEqaFOURraIVEqaSIX",
  "raEVENqaEIGHTqaNINE~E0001aaLANGUAGE TAG~E0020aaTAG SPACEeaEXCLAMATION MARKekQUOTeaNUMBER SIGNe",
  "gDOLLAefPERCENTeaAMPERSANDfaPOSTROPHEeaLEFT PARENTHESISenRIGHeaASTERISKeaPLUS SIGNeaCOMMAeaHYP",
  "HEN-MINUSeaFULL STOPeaSOLIDUSeaDIGIT ZEROkaONEkaTWOlaHREEkaFOURlaIVEkaSIXlaEVENkaEIGHTkaNINEea",
  "COLONefSEMIebLESS-THAN SIGefEQUALSefGREATER-THANeaQUESTION MARKeaCOMMERCIAL ATeaLATIN CAPITAL ",
  "LETTER AzaBzaCzaDzaEzaFzaGzaHzaIzaJzaKzaLzaMzaNzaOzaPzaQzaRzaSzaTzaUzaVzaWzaXzaYzaZfaEFT SQUAR",
  "E BRACKETeaREVERSE SOLIDUSfaIGHT SQUARE BRACKETebCIRCUMFLEX ACCENeaLOW LINEeaGRAVE ACCENTeaLAT",
  "IN SMALL LETTER AxaBxaCxaDxaExaFxaGxaHxaIxaJxaKxaLxaMxaNxaOxaPxaQxaRxaSxaTxaUxaVxaWxaXxaYxaZfa",
  "EFT CURLY BRACKETeaVERTICAL LINEeaRIGHT CURLY BRACKETeaTILDEaaCANCEL TAG~E0100aaVARIATION SELE",
  "CTOR-17ua8ua9ta20ua1ua2ua3ua4ua5ua6ua7ua8ua9ta30ua1ua2ua3ua4ua5ua6ua7ua8ua9ta40ua1ua2ua3ua4ua5",
  "ua6ua7ua8ua9ta50ua1ua2ua3ua4ua5ua6ua7ua8ua9ta60ua1ua2ua3ua4ua5ua6ua7ua8ua9ta70ua1ua2ua3ua4ua5u",
  "a6ua7ua8ua9ta80ua1ua2ua3ua4ua5ua6ua7ua8ua9ta90ua1ua2ua3ua4ua5ua6ua7ua8ua9ta100va1va2va3va4va5v",
  "a6va7va8va9ua10va1va2va3va4va5va6va7va8va9ua20va1va2va3va4va5va6va7va8va9ua30va1va2va3va4va5va",
  "6va7va8va9ua40va1va2va3va4va5va6va7va8va9ua50va1va2va3va4va5va6va7va8va9ua60va1va2va3va4va5va6",
  "va7va8va9ua70va1va2va3va4va5va6va7va8va9ua80va1va2va3va4va5va6va7va8va9ua90va1va2va3va4va5va6v",
  "a7va8va9ta200va1va2va3va4va5va6va7va8va9ua10va1va2va3va4va5va6va7va8va9ua20va1va2va3va4va5va6v",
  "a7va8va9ua30va1va2va3va4va5va6va7va8va9ua40va1va2va3va4va5va6va7va8va9ua50va1va2va3va4va5va6~0",
  "aaNUL~0daLaaSOH~1baTART OF HEADINGjaTEXT~2caXaaEND OF TEXT~3baTXbaND OF TRANSMISSION~4baOTbaNQ",
  "~5daUIRYaaACK~6daNOWLEDGEbaLERT~7aaBELbaACKSPACE~8baSaaCHARACTER TABULATION~9alHORIZONTAL~9baT",
  "~9aaTABaaEND OF LINE~AbaOL~AaaLF~AbaINE FEED~AaaNEW LINE~AbaLaaLINE TABULATION~BalVERTICAL~Bba",
  "TaaFF~CbaORM FEEDaaCARRIAGE RETURN~DbaRaaLOCKING-SHIFT ONE~EaaSHIFT OUT~EbaOabLOCKING-SHIFT ZE",
  "R~FaaSHIFT IN~FbaIaaDATA LINK ESCAPE~10bbLbaC1~11baEVICE CONTROL ONEbaC2~12baEVICE CONTROL TWO",
  "baC3~13baEVICE CONTROL THREEbaC4~14baEVICE CONTROL FOURaaNAK~15baEGATIVE ACKNOWLEDGEaaSYN~16da",
  "CHRONOUS IDLEaaEND OF TRANSMISSION BLOCK~17baTBaaCAN~18daCELaaEND OF MEDIUM~19bbOaaSUB~1AdaSTI",
  "TUTEaaESC~1BdaAPEaaFILE SEPARATOR~1CbaS~1CaaINFORMATION SEPARATOR FOURabGROUP SEPARATO~1DbaS~1",
  "DaaINFORMATION SEPARATOR THREExaWO~1EaaRECORD SEPARATOR~1EbaSaaINFORMATION SEPARATOR ONE~1FaaU",
  "NIT SEPARATOR~1FbaSaaSP~7FaaDEL~7FdaETEaaPAD~80daDING CHARACTERaaHIGH OCTET PRESET~81baOPaaBPH",
  "~82baREAK PERMITTED HEREaaNBH~83baO BREAK HEREaaIND~84daEXaaNEL~85caXT LINEaaSSA~86bbTART OF S",
  "ELECTED AREarEND~87bbSaaCHARACTER TABULATION SET~88apHORIZONTAL~88baTSaaCHARACTER TABULATION W",
  "ITH JUSTIFICATION~89a&HORIZONTAL~89baTJaaLINE TABULATION SET~8AapVERTICAL~8AbaTSaaPARTIAL LINE",
  " DOWN~8BnaFORWARD~8BbbLbbARTIAL LINE BACKWAR~8CnaUP~8CbaLUaaREVERSE INDEX~8DiaLINE FEED~8DbaIa",
  "aSINGLE SHIFT TWO~8Ega-SHIFT-2~8EbbSbaINGLE SHIFT THREE~8Fga-SHIFT-3~8FbbSaaDCS~90baEVICE CONT",
  "ROL STRINGaaPRIVATE USE ONE~91la-1~91bbUbaRIVATE USE TWO~92la-2~92bbUaaSET TRANSMIT STATE~93ba",
  "TSaaCANCEL CHARACTER~94baCHaaMESSAGE WAITING~95baWaaSPA~96bbTART OF GUARDED ARE~96jhPROTECTahE",
  "ND OF GUARD~97hhPROTECT~97bbPaaSOS~98baTART OF STRINGbaGC~99baINGLE GRAPHIC CHARACTER INTRODUC",
  "ERbaCI~9AbaINGLE CHARACTER INTRODUCERalCONTROL SEQUENCE~9BbaSIaaST~9CcaRING TERMINATORaaOPERAT",
  "ING SYSTEM COMMAND~9DbaSCaaPM~9EbaRIVACY MESSAGEaaAPC~9FcaPLICATION PROGRAM COMMANDaaNBSP~ADaa",
  "SHY~1A2aaLATIN CAPITAL LETTER GHAgmSMAL~34FaaCGJ~61CaaALM~709aaSYRIAC SUBLINEAR COLON SKEWED L",
  "EFT~CDEaaKANNADA LETTER LLLA~E9DaaLAO LETTER FO FON~E9FpaAY~EA3laRO~EA5lbL~FD0aaTIBETAN MARK B",
  "KA- SHOG GI MGO RGYAN~11ECaaHANGUL JONGSEONG YESIEUNG-KIYEOK!gSSANGraSSANGYESIEUNGraYESIEUNG-K",
  "HIEUKH~180BaaFVS1da2da3aaMVSaaFVS4~200BaaZWSPcaNJcbaaLRMabRL~202AaaLREabRLaaPDFaaLROabRLaaNNBS",
  "P~205FacMMaaWJ~2066aaLRIabRLabFSabPD~2118aaWEIERSTRASS ELLIPTIC FUNCTION~2448aaMICR ON US SYMB",
  "OLfhDASH~2B7AaaLEFTWARDS TRIANGLE-HEADED ARROW WITH DOUBLE VERTICAL STROKE~2B7Ca|RIGHTWARDS TR",
  "~A015aaYI SYLLABLE ITERATION MARK~AA6EaaMYANMAR LETTER KHAMTI LLA~FE00aaVS1ca2ca3ca4ca5ca6ca7c",
  "a8ca9ca10da1da2da3da4da5da6~FE18aaPRESENTATION FORM FOR VERTICAL RIGHT WHITE LENTICULAR BRACKE",
  "T~FEFFaaBOM~FEFFbaYTE ORDER MARK~FEFFaaZWNBSP~122D4aaCUNEIFORM SIGN NU11 TENUuaOVER NU11 BUR O",
  "VER BUR~16E56aaMEDEFAIDRIN CAPITAL LETTER H#aNG~16E76maSMALL LETTER HzaNG~1B001aaHENTAIGANA LE",
  "TTER E-1~1D0C5aaBYZANTINE MUSICAL SYMBOL FTHORA SKLIRON CHROMA VASIS~E0100aaVS17da8da9ca20da1d",
  "a2da3da4da5da6da7da8da9ca30da1da2da3da4da5da6da7da8da9ca40da1da2da3da4da5da6da7da8da9ca50da1da",
  "2da3da4da5da6da7da8da9ca60da1da2da3da4da5da6da7da8da9ca70da1da2da3da4da5da6da7da8da9ca80da1da2",
  "da3da4da5da6da7da8da9ca90da1da2da3da4da5da6da7da8da9ca100ea1ea2ea3ea4ea5ea6ea7ea8ea9da10ea1ea2",
  "ea3ea4ea5ea6ea7ea8ea9da20ea1ea2ea3ea4ea5ea6ea7ea8ea9da30ea1ea2ea3ea4ea5ea6ea7ea8ea9da40ea1ea2e",
  "a3ea4ea5ea6ea7ea8ea9da50ea1ea2ea3ea4ea5ea6ea7ea8ea9da60ea1ea2ea3ea4ea5ea6ea7ea8ea9da70ea1ea2ea",
  "3ea4ea5ea6ea7ea8ea9da80ea1ea2ea3ea4ea5ea6ea7ea8ea9da90ea1ea2ea3ea4ea5ea6ea7ea8ea9ca200ea1ea2ea",
  "3ea4ea5ea6ea7ea8ea9da10ea1ea2ea3ea4ea5ea6ea7ea8ea9da20ea1ea2ea3ea4ea5ea6ea7ea8ea9da30ea1ea2ea3",
  "ea4ea5ea6ea7ea8ea9da40ea1ea2ea3ea4ea5ea6ea7ea8ea9da50ea1ea2ea3ea4ea5ea6"]

end LalrBackend.Text
