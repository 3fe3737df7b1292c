/-! The names of musical and mathematical symbols, pictures and more, from 0x1d000 on. -/

namespace Workflow.Text

def pictureNames : List String :=
  ["1d000:BYZANTINE MUSICAL SYMBOL PSILI;cDASEIA;cPERISPOMENI;cOXEIA EKFONITIKON;dDIPLI",
   "cVAREIA EKFONITIKON;dDIPLI;cKATHISTI;cSYRMATIKI;cPARAKLITIKI;cYPOKRISIS;dDIPLI;cKREMASTI",
   "cAPESO EKFONITIKON;cEXO EKFONITIKON;cTELEIA;cKENTIMATA;cAPOSTROFOS;dDIPLI;cSYNEVMA;cTHITA",
   "cOLIGON ARCHAION;cGORGON ARCHAION;cPSILON;cCHAMILON;cVATHY;cISON ARCHAION;cKENTIMA ARCHAION",
   "cKENTIMATA ARCHAION;cSAXIMATA;cPARICHON;cSTAVROS APODEXIA;cOXEIAI ARCHAION;cVAREIAI ARCHAION",
   "cAPODERMA ARCHAION;cAPOTHEMA;cKLASMA;cREVMA;cPIASMA ARCHAION;cTINAGMA;cANATRICHISMA;cSEISMA",
   "cSYNAGMA ARCHAION;dMETA STAVROU;cOYRANISMA ARCHAION;cTHEMA;cLEMOI;cDYO;cTRIA;cTESSERA",
   "cKRATIMATA;cAPESO EXO NEO;cFTHORA ARCHAION;cIMIFTHORA;cTROMIKON ARCHAION;cKATAVA TROMIKON",
   "cPELASTON;cPSIFISTON;cKONTEVMA;cCHOREVMA ARCHAION;cRAPISMA;cPARAKALESMA ARCHAION",
   "cPARAKLITIKI ARCHAION;cICHADIN;cNANA;cPETASMA;cKONTEVMA ALLO;cTROMIKON ALLO;cSTRAGGISMATA",
   "cGRONTHISMATA;cISON NEO;cOLIGON NEO;cOXEIA NEO;cPETASTI;cKOUFISMA;cPETASTOKOUFISMA",
   "cKRATIMOKOUFISMA;cPELASTON NEO;cKENTIMATA NEO ANO;cKENTIMA NEO ANO;cYPSILI;cAPOSTROFOS NEO",
   "cAPOSTROFOI SYNDESMOS NEO;cYPORROI;cKRATIMOYPORROON;cELAFRON;cCHAMILI;cMIKRON ISON;cVAREIA NEO",
   "cPIASMA NEO;cPSIFISTON NEO;cOMALON;cANTIKENOMA;cLYGISMA;cPARAKLITIKI NEO;cPARAKALESMA NEO",
   "cETERON PARAKALESMA;cKYLISMA;cANTIKENOKYLISMA;cTROMIKON NEO;cEKSTREPTON;cSYNAGMA NEO;cSYRMA",
   "cCHOREVMA NEO;cEPEGERMA;cSEISMA NEO;cXIRON KLASMA;cTROMIKOPSIFISTON;cPSIFISTOLYGISMA",
   "cTROMIKOLYGISMA;cTROMIKOPARAKALESMA;cPSIFISTOPARAKALESMA;cTROMIKOSYNAGMA;cPSIFISTOSYNAGMA",
   "cGORGOSYNTHETON;cARGOSYNTHETON;cETERON ARGOSYNTHETON;cOYRANISMA NEO;cTHEMATISMOS ESO;dEXO",
   "cTHEMA APLOUN;cTHES KAI APOTHES;cKATAVASMA;cENDOFONON;cYFEN KATO;dANO;cSTAVROS;cKLASMA ANO",
   "cDIPLI ARCHAION;cKRATIMA ARCHAION;dALLO;dNEO;cAPODERMA NEO;cAPLI;cDIPLI;cTRIPLI;cTETRAPLI",
   "cKORONIS;cLEIMMA ENOS CHRONOU;dDYO CHRONON;dTRION CHRONON;dTESSARON CHRONON;dIMISEOS CHRONOU",
   "cGORGON NEO ANO;dPARESTIGMENON ARISTERA;eDEXIA;cDIGORGON;dPARESTIGMENON ARISTERA KATO;fANO",
   "eDEXIA;cTRIGORGON;cARGON;cIMIDIARGON;cDIARGON;cAGOGI POLI ARGI;dARGOTERI;dARGI;dMETRIA;dMESI",
   "dGORGI;dGORGOTERI;dPOLI GORGI;cMARTYRIA PROTOS ICHOS;dALLI PROTOS ICHOS;dDEYTEROS ICHOS",
   "dALLI DEYTEROS ICHOS;dTRITOS ICHOS;dTRIFONIAS;dTETARTOS ICHOS;eLEGETOS ICHOS;dLEGETOS ICHOS",
   "dPLAGIOS ICHOS;cISAKIA TELOUS ICHIMATOS;cAPOSTROFOI TELOUS ICHIMATOS;cFANEROSIS TETRAFONIAS",
   "dMONOFONIAS;dDIFONIAS;cMARTYRIA VARYS ICHOS;dPROTOVARYS ICHOS;dPLAGIOS TETARTOS ICHOS",
   "cGORTHMIKON N APLOUN;eDIPLOUN;cENARXIS KAI FTHORA VOU;cIMIFONON;cIMIFTHORON",
   "cFTHORA ARCHAION DEYTEROU ICHOU;dDIATONIKI PA;eNANA;dNAOS ICHOS;dDIATONIKI DI",
   "dSKLIRON DIATONON DI;dDIATONIKI KE;eZO;eNI KATO;fANO;dMALAKON CHROMA DIFONIAS;fMONOFONIAS",
   "cFHTORA SKLIRON CHROMA VASIS;cFTHORA SKLIRON CHROMA SYNAFI;dNENANO;cCHROA ZYGOS;dKLITON",
   "dSPATHI;cFTHORA I YFESIS TETARTIMORION;dENARMONIOS ANTIFONIA;cYFESIS TRITIMORION",
   "cDIESIS TRITIMORION;dTETARTIMORION;dAPLI DYO DODEKATA;dMONOGRAMMOS TESSERA DODEKATA",
   "dDIGRAMMOS EX DODEKATA;dTRIGRAMMOS OKTO DODEKATA;cYFESIS APLI DYO DODEKATA",
   "dMONOGRAMMOS TESSERA DODEKATA;dDIGRAMMOS EX DODEKATA;dTRIGRAMMOS OKTO DODEKATA;cGENIKI DIESIS",
   "dYFESIS;cDIASTOLI APLI MIKRI;eMEGALI;dDIPLI;dTHESEOS;cSIMANSIS THESEOS;eDISIMOU;eTRISIMOU",
   "eTETRASIMOU;dARSEOS;eDISIMOU;eTRISIMOU;eTETRASIMOU;cDIGRAMMA GG;cDIFTOGGOS OU;cSTIGMA",
   "cARKTIKO PA;dVOU;dGA;dDI;dKE;dZO;dNI;cKENTIMATA NEO MESO;cKENTIMA NEO MESO;cKENTIMATA NEO KATO",
   "cKENTIMA NEO KATO;cKLASMA KATO;cGORGON NEO KATO;1d100:MUSICAL SYMBOL SINGLE BARLINE",
   "bDOUBLE BARLINE;bFINAL BARLINE;bREVERSE FINAL BARLINE;bDASHED BARLINE;bSHORT BARLINE",
   "bLEFT REPEAT SIGN;bRIGHT REPEAT SIGN;bREPEAT DOTS;bDAL SEGNO;bDA CAPO;bSEGNO;bCODA",
   "bREPEATED FIGURE-1;cFIGURE-2;cFIGURE-3;bFERMATA;cBELOW;bBREATH MARK;bCAESURA;bBRACE;bBRACKET",
   "bONE-LINE STAFF;bTWO-LINE STAFF;bTHREE-LINE STAFF;bFOUR-LINE STAFF;bFIVE-LINE STAFF",
   "bSIX-LINE STAFF;bSIX-STRING FRETBOARD;bFOUR-STRING FRETBOARD;bG CLEF;dOTTAVA ALTA;eBASSA",
   "bC CLEF;bF CLEF;dOTTAVA ALTA;eBASSA;bDRUM CLEF-1;cCLEF-2;1d129:bMULTIPLE MEASURE REST",
   "bDOUBLE SHARP;cFLAT;bFLAT UP;cDOWN;bNATURAL UP;cDOWN;bSHARP UP;cDOWN;bQUARTER TONE SHARP;dFLAT",
   "bCOMMON TIME;bCUT TIME;bOTTAVA ALTA;cBASSA;bQUINDICESIMA ALTA;cBASSA;bMULTI REST;bWHOLE REST",
   "bHALF REST;bQUARTER REST;bEIGHTH REST;bSIXTEENTH REST;bTHIRTY-SECOND REST;bSIXTY-FOURTH REST",
   "bONE HUNDRED TWENTY-EIGHTH REST;bX NOTEHEAD;bPLUS NOTEHEAD;bCIRCLE X NOTEHEAD",
   "bSQUARE NOTEHEAD WHITE;dBLACK;bTRIANGLE NOTEHEAD UP WHITE;eBLACK;dLEFT WHITE;eBLACK",
   "dRIGHT WHITE;eBLACK;dDOWN WHITE;eBLACK;dUP RIGHT WHITE;fBLACK;bMOON NOTEHEAD WHITE;dBLACK",
   "bTRIANGLE-ROUND NOTEHEAD DOWN WHITE;eBLACK;bPARENTHESIS NOTEHEAD;bVOID NOTEHEAD",
   "bNOTEHEAD BLACK;bNULL NOTEHEAD;bCLUSTER NOTEHEAD WHITE;dBLACK;bBREVE;bWHOLE NOTE;bHALF NOTE",
   "bQUARTER NOTE;bEIGHTH NOTE;bSIXTEENTH NOTE;bTHIRTY-SECOND NOTE;bSIXTY-FOURTH NOTE",
   "bONE HUNDRED TWENTY-EIGHTH NOTE;bCOMBINING STEM;cSPRECHGESANG STEM;cTREMOLO-1;cTREMOLO-2",
   "cTREMOLO-3;bFINGERED TREMOLO-1;cTREMOLO-2;cTREMOLO-3;bCOMBINING AUGMENTATION DOT;cFLAG-1",
   "cFLAG-2;cFLAG-3;cFLAG-4;cFLAG-5;bBEGIN BEAM;bEND BEAM;bBEGIN TIE;bEND TIE;bBEGIN SLUR",
   "bEND SLUR;bBEGIN PHRASE;bEND PHRASE;bCOMBINING ACCENT;cSTACCATO;cTENUTO;cSTACCATISSIMO",
   "cMARCATO;cMARCATO-STACCATO;cACCENT-STACCATO;cLOURE;bARPEGGIATO UP;cDOWN;bCOMBINING DOIT;cRIP",
   "cFLIP;cSMEAR;cBEND;cDOUBLE TONGUE;cTRIPLE TONGUE;bRINFORZANDO;bSUBITO;bZ;bPIANO;bMEZZO;bFORTE",
   "bCRESCENDO;bDECRESCENDO;bGRACE NOTE SLASH;dNO SLASH;bTR;bTURN;bINVERTED TURN;bTURN SLASH;cUP",
   "bORNAMENT STROKE-1;cSTROKE-2;cSTROKE-3;cSTROKE-4;cSTROKE-5;cSTROKE-6;cSTROKE-7;cSTROKE-8",
   "cSTROKE-9;cSTROKE-10;cSTROKE-11;bHAUPTSTIMME;bNEBENSTIMME;bEND OF STIMME;bDEGREE SLASH",
   "bCOMBINING DOWN BOW;cUP BOW;cHARMONIC;cSNAP PIZZICATO;bPEDAL MARK;cUP MARK;bHALF PEDAL MARK",
   "bGLISSANDO UP;cDOWN;bWITH FINGERNAILS;bDAMP;cALL;bMAXIMA;bLONGA;bBREVIS;bSEMIBREVIS WHITE",
   "cBLACK;bMINIMA;cBLACK;bSEMIMINIMA WHITE;cBLACK;bFUSA WHITE;cBLACK;bLONGA PERFECTA REST",
   "cIMPERFECTA REST;bBREVIS REST;bSEMIBREVIS REST;bMINIMA REST;bSEMIMINIMA REST",
   "bTEMPUS PERFECTUM CUM PROLATIONE PERFECTA;fIMPERFECTA;fPERFECTA DIMINUTION-1",
   "cIMPERFECTUM CUM PROLATIONE PERFECTA;fIMPERFECTA;gDIMINUTION-1;gDIMINUTION-2;gDIMINUTION-3",
   "bCROIX;bGREGORIAN C CLEF;cF CLEF;bSQUARE B;bVIRGA;bPODATUS;bCLIVIS;bSCANDICUS;bCLIMACUS",
   "bTORCULUS;bPORRECTUS;cFLEXUS;bSCANDICUS FLEXUS;bTORCULUS RESUPINUS;bPES SUBPUNCTIS",
   "bKIEVAN C CLEF;cEND OF PIECE;cFINAL NOTE;cRECITATIVE MARK;cWHOLE NOTE;cHALF NOTE",
   "cQUARTER NOTE STEM DOWN;fUP;cEIGHTH NOTE STEM DOWN;fUP;cFLAT SIGN;bSORI;bKORON",
   "1d200:GREEK VOCAL NOTATION SYMBOL-1;cSYMBOL-2;cSYMBOL-3;cSYMBOL-4;cSYMBOL-5;cSYMBOL-6",
   "cSYMBOL-7;cSYMBOL-8;cSYMBOL-9;cSYMBOL-10;cSYMBOL-11;cSYMBOL-12;cSYMBOL-13;cSYMBOL-14",
   "cSYMBOL-15;cSYMBOL-16;cSYMBOL-17;cSYMBOL-18;cSYMBOL-19;cSYMBOL-20;cSYMBOL-21;cSYMBOL-22",
   "cSYMBOL-23;cSYMBOL-24;cSYMBOL-50;cSYMBOL-51;cSYMBOL-52;cSYMBOL-53;cSYMBOL-54",
   "aINSTRUMENTAL NOTATION SYMBOL-1;cSYMBOL-2;cSYMBOL-4;cSYMBOL-5;cSYMBOL-7;cSYMBOL-8;cSYMBOL-11",
   "cSYMBOL-12;cSYMBOL-13;cSYMBOL-14;cSYMBOL-17;cSYMBOL-18;cSYMBOL-19;cSYMBOL-23;cSYMBOL-24",
   "cSYMBOL-25;cSYMBOL-26;cSYMBOL-27;cSYMBOL-29;cSYMBOL-30;cSYMBOL-32;cSYMBOL-36;cSYMBOL-37",
   "cSYMBOL-38;cSYMBOL-39;cSYMBOL-40;cSYMBOL-42;cSYMBOL-43;cSYMBOL-45;cSYMBOL-47;cSYMBOL-48",
   "cSYMBOL-49;cSYMBOL-50;cSYMBOL-51;cSYMBOL-52;cSYMBOL-53;cSYMBOL-54",
   "COMBINING GREEK MUSICAL TRISEME;cTETRASEME;cPENTASEME;GREEK MUSICAL LEIMMA",
   "1d2e0:MAYAN NUMERAL ZERO;bONE;bTWO;bTHREE;bFOUR;bFIVE;bSIX;bSEVEN;bEIGHT;bNINE;bTEN;bELEVEN",
   "bTWELVE;bTHIRTEEN;bFOURTEEN;bFIFTEEN;bSIXTEEN;bSEVENTEEN;bEIGHTEEN;bNINETEEN",
   "1d300:MONOGRAM FOR EARTH;DIGRAM FOR HEAVENLY EARTH;bHUMAN EARTH;bEARTHLY HEAVEN;cHUMAN;bEARTH",
   "TETRAGRAM FOR CENTRE;bFULL CIRCLE;bMIRED;bBARRIER;bKEEPING SMALL;bCONTRARIETY;bASCENT",
   "bOPPOSITION;bBRANCHING OUT;bDEFECTIVENESS OR DISTORTION;bDIVERGENCE;bYOUTHFULNESS;bINCREASE",
   "bPENETRATION;bREACH;bCONTACT;bHOLDING BACK;bWAITING;bFOLLOWING;bADVANCE;bRELEASE;bRESISTANCE",
   "bEASE;bJOY;bCONTENTION;bENDEAVOUR;bDUTIES;bCHANGE;bDECISIVENESS;bBOLD RESOLUTION;bPACKING",
   "bLEGION;bCLOSENESS;bKINSHIP;bGATHERING;bSTRENGTH;bPURITY;bFULLNESS;bRESIDENCE;bLAW OR MODEL",
   "bRESPONSE;bGOING TO MEET;bENCOUNTERS;bSTOVE;bGREATNESS;bENLARGEMENT;bPATTERN;bRITUAL;bFLIGHT",
   "bVASTNESS OR WASTING;bCONSTANCY;bMEASURE;bETERNITY;bUNITY;bDIMINISHMENT;bCLOSED MOUTH",
   "bGUARDEDNESS;bGATHERING IN;bMASSING;bACCUMULATION;bEMBELLISHMENT;bDOUBT;bWATCH;bSINKING;bINNER",
   "bDEPARTURE;bDARKENING;bDIMMING;bEXHAUSTION;bSEVERANCE;bSTOPPAGE;bHARDNESS;bCOMPLETION;bCLOSURE",
   "bFAILURE;bAGGRAVATION;bCOMPLIANCE;bON THE VERGE;bDIFFICULTIES;bLABOURING;bFOSTERING",
   "1d360:COUNTING ROD UNIT DIGIT ONE;dTWO;dTHREE;dFOUR;dFIVE;dSIX;dSEVEN;dEIGHT;dNINE",
   "bTENS DIGIT ONE;dTWO;dTHREE;dFOUR;dFIVE;dSIX;dSEVEN;dEIGHT;dNINE;IDEOGRAPHIC TALLY MARK ONE",
   "cTWO;cTHREE;cFOUR;cFIVE;TALLY MARK ONE;bFIVE;1d400:MATHEMATICAL BOLD CAPITAL A;cB;cC;cD;cE;cF",
   "cG;cH;cI;cJ;cK;cL;cM;cN;cO;cP;cQ;cR;cS;cT;cU;cV;cW;cX;cY;cZ;bSMALL A;cB;cC;cD;cE;cF;cG;cH;cI",
   "cJ;cK;cL;cM;cN;cO;cP;cQ;cR;cS;cT;cU;cV;cW;cX;cY;cZ;aITALIC CAPITAL A;cB;cC;cD;cE;cF;cG;cH;cI",
   "cJ;cK;cL;cM;cN;cO;cP;cQ;cR;cS;cT;cU;cV;cW;cX;cY;cZ;bSMALL A;cB;cC;cD;cE;cF;cG;1d456:cI;cJ;cK",
   "cL;cM;cN;cO;cP;cQ;cR;cS;cT;cU;cV;cW;cX;cY;cZ;aBOLD ITALIC CAPITAL A;dB;dC;dD;dE;dF;dG;dH;dI;dJ",
   "dK;dL;dM;dN;dO;dP;dQ;dR;dS;dT;dU;dV;dW;dX;dY;dZ;cSMALL A;dB;dC;dD;dE;dF;dG;dH;dI;dJ;dK;dL;dM",
   "dN;dO;dP;dQ;dR;dS;dT;dU;dV;dW;dX;dY;dZ;aSCRIPT CAPITAL A;1d49e:cC;cD;1d4a2:cG;1d4a5:cJ;cK",
   "1d4a9:cN;cO;cP;cQ;1d4ae:cS;cT;cU;cV;cW;cX;cY;cZ;bSMALL A;cB;cC;cD;1d4bb:cF;1d4bd:cH;cI;cJ;cK",
   "cL;cM;cN;1d4c5:cP;cQ;cR;cS;cT;cU;cV;cW;cX;cY;cZ;aBOLD SCRIPT CAPITAL A;dB;dC;dD;dE;dF;dG;dH;dI",
   "dJ;dK;dL;dM;dN;dO;dP;dQ;dR;dS;dT;dU;dV;dW;dX;dY;dZ;cSMALL A;dB;dC;dD;dE;dF;dG;dH;dI;dJ;dK;dL",
   "dM;dN;dO;dP;dQ;dR;dS;dT;dU;dV;dW;dX;dY;dZ;aFRAKTUR CAPITAL A;cB;1d507:cD;cE;cF;cG;1d50d:cJ;cK",
   "cL;cM;cN;cO;cP;cQ;1d516:cS;cT;cU;cV;cW;cX;cY;1d51e:bSMALL A;cB;cC;cD;cE;cF;cG;cH;cI;cJ;cK;cL",
   "cM;cN;cO;cP;cQ;cR;cS;cT;cU;cV;cW;cX;cY;cZ;aDOUBLE-STRUCK CAPITAL A;cB;1d53b:cD;cE;cF;cG",
   "1d540:cI;cJ;cK;cL;cM;1d546:cO;1d54a:cS;cT;cU;cV;cW;cX;cY;1d552:bSMALL A;cB;cC;cD;cE;cF;cG;cH",
   "cI;cJ;cK;cL;cM;cN;cO;cP;cQ;cR;cS;cT;cU;cV;cW;cX;cY;cZ;aBOLD FRAKTUR CAPITAL A;dB;dC;dD;dE;dF",
   "dG;dH;dI;dJ;dK;dL;dM;dN;dO;dP;dQ;dR;dS;dT;dU;dV;dW;dX;dY;dZ;cSMALL A;dB;dC;dD;dE;dF;dG;dH;dI",
   "dJ;dK;dL;dM;dN;dO;dP;dQ;dR;dS;dT;dU;dV;dW;dX;dY;dZ;aSANS-SERIF CAPITAL A;cB;cC;cD;cE;cF;cG;cH",
   "cI;cJ;cK;cL;cM;cN;cO;cP;cQ;cR;cS;cT;cU;cV;cW;cX;cY;cZ;bSMALL A;cB;cC;cD;cE;cF;cG;cH;cI;cJ;cK",
   "cL;cM;cN;cO;cP;cQ;cR;cS;cT;cU;cV;cW;cX;cY;cZ;bBOLD CAPITAL A;dB;dC;dD;dE;dF;dG;dH;dI;dJ;dK;dL",
   "dM;dN;dO;dP;dQ;dR;dS;dT;dU;dV;dW;dX;dY;dZ;cSMALL A;dB;dC;dD;dE;dF;dG;dH;dI;dJ;dK;dL;dM;dN;dO",
   "dP;dQ;dR;dS;dT;dU;dV;dW;dX;dY;dZ;bITALIC CAPITAL A;dB;dC;dD;dE;dF;dG;dH;dI;dJ;dK;dL;dM;dN;dO",
   "dP;dQ;dR;dS;dT;dU;dV;dW;dX;dY;dZ;cSMALL A;dB;dC;dD;dE;dF;dG;dH;dI;dJ;dK;dL;dM;dN;dO;dP;dQ;dR",
   "dS;dT;dU;dV;dW;dX;dY;dZ;bBOLD ITALIC CAPITAL A;eB;eC;eD;eE;eF;eG;eH;eI;eJ;eK;eL;eM;eN;eO;eP;eQ",
   "eR;eS;eT;eU;eV;eW;eX;eY;eZ;dSMALL A;eB;eC;eD;eE;eF;eG;eH;eI;eJ;eK;eL;eM;eN;eO;eP;eQ;eR;eS;eT",
   "eU;eV;eW;eX;eY;eZ;aMONOSPACE CAPITAL A;cB;cC;cD;cE;cF;cG;cH;cI;cJ;cK;cL;cM;cN;cO;cP;cQ;cR;cS",
   "cT;cU;cV;cW;cX;cY;cZ;bSMALL A;cB;cC;cD;cE;cF;cG;cH;cI;cJ;cK;cL;cM;cN;cO;cP;cQ;cR;cS;cT;cU;cV",
   "cW;cX;cY;cZ;aITALIC SMALL DOTLESS I;dJ;1d6a8:aBOLD CAPITAL ALPHA;cBETA;cGAMMA;cDELTA;cEPSILON",
   "cZETA;cETA;cTHETA;cIOTA;cKAPPA;cLAMDA;cMU;cNU;cXI;cOMICRON;cPI;cRHO;cTHETA SYMBOL;cSIGMA;cTAU",
   "cUPSILON;cPHI;cCHI;cPSI;cOMEGA;bNABLA;bSMALL ALPHA;cBETA;cGAMMA;cDELTA;cEPSILON;cZETA;cETA",
   "cTHETA;cIOTA;cKAPPA;cLAMDA;cMU;cNU;cXI;cOMICRON;cPI;cRHO;cFINAL SIGMA;cSIGMA;cTAU;cUPSILON",
   "cPHI;cCHI;cPSI;cOMEGA;bPARTIAL DIFFERENTIAL;bEPSILON SYMBOL;bTHETA SYMBOL;bKAPPA SYMBOL",
   "bPHI SYMBOL;bRHO SYMBOL;bPI SYMBOL;aITALIC CAPITAL ALPHA;cBETA;cGAMMA;cDELTA;cEPSILON;cZETA",
   "cETA;cTHETA;cIOTA;cKAPPA;cLAMDA;cMU;cNU;cXI;cOMICRON;cPI;cRHO;cTHETA SYMBOL;cSIGMA;cTAU",
   "cUPSILON;cPHI;cCHI;cPSI;cOMEGA;bNABLA;bSMALL ALPHA;cBETA;cGAMMA;cDELTA;cEPSILON;cZETA;cETA",
   "cTHETA;cIOTA;cKAPPA;cLAMDA;cMU;cNU;cXI;cOMICRON;cPI;cRHO;cFINAL SIGMA;cSIGMA;cTAU;cUPSILON",
   "cPHI;cCHI;cPSI;cOMEGA;bPARTIAL DIFFERENTIAL;bEPSILON SYMBOL;bTHETA SYMBOL;bKAPPA SYMBOL",
   "bPHI SYMBOL;bRHO SYMBOL;bPI SYMBOL;aBOLD ITALIC CAPITAL ALPHA;dBETA;dGAMMA;dDELTA;dEPSILON",
   "dZETA;dETA;dTHETA;dIOTA;dKAPPA;dLAMDA;dMU;dNU;dXI;dOMICRON;dPI;dRHO;dTHETA SYMBOL;dSIGMA;dTAU",
   "dUPSILON;dPHI;dCHI;dPSI;dOMEGA;cNABLA;cSMALL ALPHA;dBETA;dGAMMA;dDELTA;dEPSILON;dZETA;dETA",
   "dTHETA;dIOTA;dKAPPA;dLAMDA;dMU;dNU;dXI;dOMICRON;dPI;dRHO;dFINAL SIGMA;dSIGMA;dTAU;dUPSILON",
   "dPHI;dCHI;dPSI;dOMEGA;cPARTIAL DIFFERENTIAL;cEPSILON SYMBOL;cTHETA SYMBOL;cKAPPA SYMBOL",
   "cPHI SYMBOL;cRHO SYMBOL;cPI SYMBOL;aSANS-SERIF BOLD CAPITAL ALPHA;dBETA;dGAMMA;dDELTA;dEPSILON",
   "dZETA;dETA;dTHETA;dIOTA;dKAPPA;dLAMDA;dMU;dNU;dXI;dOMICRON;dPI;dRHO;dTHETA SYMBOL;dSIGMA;dTAU",
   "dUPSILON;dPHI;dCHI;dPSI;dOMEGA;cNABLA;cSMALL ALPHA;dBETA;dGAMMA;dDELTA;dEPSILON;dZETA;dETA",
   "dTHETA;dIOTA;dKAPPA;dLAMDA;dMU;dNU;dXI;dOMICRON;dPI;dRHO;dFINAL SIGMA;dSIGMA;dTAU;dUPSILON",
   "dPHI;dCHI;dPSI;dOMEGA;cPARTIAL DIFFERENTIAL;cEPSILON SYMBOL;cTHETA SYMBOL;cKAPPA SYMBOL",
   "cPHI SYMBOL;cRHO SYMBOL;cPI SYMBOL;cITALIC CAPITAL ALPHA;eBETA;eGAMMA;eDELTA;eEPSILON;eZETA",
   "eETA;eTHETA;eIOTA;eKAPPA;eLAMDA;eMU;eNU;eXI;eOMICRON;ePI;eRHO;eTHETA SYMBOL;eSIGMA;eTAU",
   "eUPSILON;ePHI;eCHI;ePSI;eOMEGA;dNABLA;dSMALL ALPHA;eBETA;eGAMMA;eDELTA;eEPSILON;eZETA;eETA",
   "eTHETA;eIOTA;eKAPPA;eLAMDA;eMU;eNU;eXI;eOMICRON;ePI;eRHO;eFINAL SIGMA;eSIGMA;eTAU;eUPSILON",
   "ePHI;eCHI;ePSI;eOMEGA;dPARTIAL DIFFERENTIAL;dEPSILON SYMBOL;dTHETA SYMBOL;dKAPPA SYMBOL",
   "dPHI SYMBOL;dRHO SYMBOL;dPI SYMBOL;aBOLD CAPITAL DIGAMMA;bSMALL DIGAMMA;1d7ce:bDIGIT ZERO;cONE",
   "cTWO;cTHREE;cFOUR;cFIVE;cSIX;cSEVEN;cEIGHT;cNINE;aDOUBLE-STRUCK DIGIT ZERO;cONE;cTWO;cTHREE",
   "cFOUR;cFIVE;cSIX;cSEVEN;cEIGHT;cNINE;aSANS-SERIF DIGIT ZERO;cONE;cTWO;cTHREE;cFOUR;cFIVE;cSIX",
   "cSEVEN;cEIGHT;cNINE;bBOLD DIGIT ZERO;dONE;dTWO;dTHREE;dFOUR;dFIVE;dSIX;dSEVEN;dEIGHT;dNINE",
   "aMONOSPACE DIGIT ZERO;cONE;cTWO;cTHREE;cFOUR;cFIVE;cSIX;cSEVEN;cEIGHT;cNINE",
   "SIGNWRITING HAND-FIST INDEX;aHAND-CIRCLE INDEX;aHAND-CUP INDEX;aHAND-OVAL INDEX",
   "aHAND-HINGE INDEX;aHAND-ANGLE INDEX;aHAND-FIST INDEX BENT;aHAND-CIRCLE INDEX BENT",
   "aHAND-FIST THUMB UNDER INDEX BENT;bINDEX RAISED KNUCKLE;cCUPPED;cHINGED;dLOW",
   "aHAND-CIRCLE INDEX HINGE;aHAND-FIST INDEX MIDDLE;aHAND-CIRCLE INDEX MIDDLE",
   "aHAND-FIST INDEX MIDDLE BENT;dRAISED KNUCKLES;dHINGED;cUP MIDDLE HINGED;cHINGED MIDDLE UP",
   "cMIDDLE CONJOINED;eINDEX BENT;eMIDDLE BENT;eCUPPED;eHINGED;dCROSSED",
   "aHAND-CIRCLE INDEX MIDDLE CROSSED;aHAND-FIST MIDDLE BENT OVER INDEX;bINDEX BENT OVER MIDDLE",
   "cMIDDLE THUMB;aHAND-CIRCLE INDEX MIDDLE THUMB;aHAND-FIST INDEX MIDDLE STRAIGHT THUMB BENT",
   "dBENT THUMB STRAIGHT;dTHUMB BENT;dHINGED SPREAD THUMB SIDE;cUP MIDDLE HINGED THUMB SIDE",
   "gCONJOINED;cHINGED MIDDLE UP THUMB SIDE;cMIDDLE UP SPREAD THUMB FORWARD;dTHUMB CUPPED;eCIRCLED",
   "eHOOKED;eHINGED;bTHUMB BETWEEN INDEX MIDDLE STRAIGHT;bINDEX MIDDLE CONJOINED THUMB SIDE",
   "gCONJOINED;gBENT;bMIDDLE THUMB HOOKED INDEX UP;bINDEX THUMB HOOKED MIDDLE UP",
   "cMIDDLE CONJOINED HINGED THUMB SIDE;dCROSSED THUMB SIDE;dCONJOINED THUMB FORWARD",
   "eCUPPED THUMB FORWARD;bMIDDLE THUMB CUPPED INDEX UP;bINDEX THUMB CUPPED MIDDLE UP",
   "bMIDDLE THUMB CIRCLED INDEX UP;fHINGED;bINDEX THUMB ANGLED OUT MIDDLE UP;eIN MIDDLE UP",
   "dCIRCLED MIDDLE UP;cMIDDLE THUMB CONJOINED HINGED;eANGLED OUT;f",
   "bMIDDLE THUMB ANGLED OUT INDEX UP;gCROSSED;eINDEX UP;bINDEX THUMB HOOKED MIDDLE HINGED",
   "aHAND-FLAT FOUR FINGERS;dBENT;dHINGED;dCONJOINED;eSPLIT;aHAND-CLAW FOUR FINGERS CONJOINED",
   "aHAND-FIST FOUR FINGERS CONJOINED BENT;aHAND-HINGE FOUR FINGERS CONJOINED",
   "aHAND-FLAT FIVE FINGERS SPREAD;bHEEL FIVE FINGERS SPREAD;bFIVE FINGERS SPREAD FOUR BENT",
   "bHEEL FIVE FINGERS SPREAD FOUR BENT;bFIVE FINGERS SPREAD BENT;bHEEL FIVE FINGERS SPREAD BENT",
   "bFIVE FINGERS SPREAD THUMB FORWARD;aHAND-CUP FIVE FINGERS SPREAD;eOPEN",
   "aHAND-HINGE FIVE FINGERS SPREAD OPEN;aHAND-OVAL FIVE FINGERS SPREAD",
   "aHAND-FLAT FIVE FINGERS SPREAD HINGED;fTHUMB SIDE;fNO THUMB;b;bBETWEEN PALM FACINGS;bHEEL",
   "bTHUMB SIDE;bHEEL THUMB SIDE;bTHUMB BENT;cFORWARD;bSPLIT INDEX THUMB SIDE;cCENTRE;dTHUMB SIDE",
   "fBENT;cLITTLE;aHAND-CLAW;bTHUMB SIDE;bNO THUMB;bTHUMB FORWARD;aHAND-HOOK CURLICUE;b",
   "aHAND-CUP OPEN;b;bOPEN THUMB SIDE;bTHUMB SIDE;bOPEN NO THUMB;bNO THUMB;bOPEN THUMB FORWARD",
   "bTHUMB FORWARD;aHAND-CURLICUE OPEN;b;aHAND-CIRCLE;aHAND-OVAL;bTHUMB SIDE;bNO THUMB",
   "bTHUMB FORWARD;aHAND-HINGE OPEN;cTHUMB FORWARD;b;bSMALL;bOPEN THUMB SIDE;bTHUMB SIDE",
   "bOPEN NO THUMB;bNO THUMB;bTHUMB SIDE TOUCHING INDEX;cBETWEEN MIDDLE RING;aHAND-ANGLE",
   "aHAND-FIST INDEX MIDDLE RING;aHAND-CIRCLE INDEX MIDDLE RING;aHAND-HINGE INDEX MIDDLE RING",
   "aHAND-ANGLE INDEX MIDDLE RING;aHAND-HINGE LITTLE;aHAND-FIST INDEX MIDDLE RING BENT;eCONJOINED",
   "aHAND-HINGE INDEX MIDDLE RING CONJOINED;aHAND-FIST LITTLE DOWN;dRIPPLE STRAIGHT;eCURVED",
   "dOTHERS CIRCLED;cUP;bTHUMB UNDER LITTLE UP;aHAND-CIRCLE LITTLE UP;aHAND-OVAL LITTLE UP",
   "aHAND-ANGLE LITTLE UP;aHAND-FIST LITTLE RAISED KNUCKLE;cBENT;cTOUCHES THUMB;cTHUMB",
   "aHAND-HINGE LITTLE THUMB;aHAND-FIST LITTLE INDEX THUMB;aHAND-HINGE LITTLE INDEX THUMB",
   "aHAND-ANGLE LITTLE INDEX THUMB INDEX THUMB OUT;g;aHAND-FIST LITTLE INDEX",
   "aHAND-CIRCLE LITTLE INDEX;aHAND-HINGE LITTLE INDEX;aHAND-ANGLE LITTLE INDEX",
   "aHAND-FIST INDEX MIDDLE LITTLE;aHAND-CIRCLE INDEX MIDDLE LITTLE",
   "aHAND-HINGE INDEX MIDDLE LITTLE;bRING;aHAND-ANGLE INDEX MIDDLE LITTLE",
   "aHAND-FIST INDEX MIDDLE CROSS LITTLE;aHAND-CIRCLE INDEX MIDDLE CROSS LITTLE",
   "aHAND-FIST RING DOWN;aHAND-HINGE RING DOWN INDEX THUMB HOOK MIDDLE",
   "aHAND-ANGLE RING DOWN MIDDLE THUMB INDEX CROSS;aHAND-FIST RING UP;cRAISED KNUCKLE;cLITTLE",
   "aHAND-CIRCLE RING LITTLE;aHAND-OVAL RING LITTLE;aHAND-ANGLE RING LITTLE;aHAND-FIST RING MIDDLE",
   "dCONJOINED;dRAISED KNUCKLES;cINDEX;cTHUMB;aHAND-HOOK RING THUMB;aHAND-FIST INDEX RING LITTLE",
   "aHAND-CIRCLE INDEX RING LITTLE;aHAND-CURLICUE INDEX RING LITTLE ON",
   "aHAND-HOOK INDEX RING LITTLE OUT;eIN;eUNDER;aHAND-CUP INDEX RING LITTLE",
   "aHAND-HINGE INDEX RING LITTLE;aHAND-ANGLE INDEX RING LITTLE OUT;e;aHAND-FIST MIDDLE DOWN",
   "aHAND-HINGE MIDDLE;aHAND-FIST MIDDLE UP;aHAND-CIRCLE MIDDLE UP",
   "aHAND-FIST MIDDLE RAISED KNUCKLE;cUP THUMB SIDE;aHAND-HOOK MIDDLE THUMB",
   "aHAND-FIST MIDDLE THUMB LITTLE;cLITTLE;cRING LITTLE;aHAND-CIRCLE MIDDLE RING LITTLE",
   "aHAND-CURLICUE MIDDLE RING LITTLE ON;aHAND-CUP MIDDLE RING LITTLE",
   "aHAND-HINGE MIDDLE RING LITTLE;aHAND-ANGLE MIDDLE RING LITTLE OUT;eIN;e",
   "aHAND-CIRCLE MIDDLE RING LITTLE BENT;aHAND-CLAW MIDDLE RING LITTLE CONJOINED;fSIDE",
   "aHAND-HOOK MIDDLE RING LITTLE CONJOINED OUT;fIN;f;aHAND-HINGE INDEX HINGED",
   "aHAND-FIST INDEX THUMB SIDE;aHAND-HINGE INDEX THUMB SIDE",
   "aHAND-FIST INDEX THUMB SIDE THUMB DIAGONAL;fCONJOINED;fBENT;eINDEX BENT;eBOTH BENT",
   "eINDEX HINGE;dFORWARD INDEX STRAIGHT;fBENT;dHOOK;dCURLICUE;dCURVE THUMB INSIDE",
   "aHAND-CLAW INDEX THUMB CURVE THUMB INSIDE;aHAND-FIST INDEX THUMB CURVE THUMB UNDER;dCIRCLE",
   "aHAND-CUP INDEX THUMB;dOPEN;aHAND-HINGE INDEX THUMB OPEN;dLARGE;d;dSMALL",
   "aHAND-ANGLE INDEX THUMB OUT;dIN;d;aHAND-FIST THUMB;cHEEL;cSIDE DIAGONAL;dCONJOINED;dBENT",
   "cFORWARD;cBETWEEN INDEX MIDDLE;dMIDDLE RING;dRING LITTLE;cUNDER TWO FINGERS;cOVER TWO FINGERS",
   "cUNDER THREE FINGERS;dFOUR FINGERS;cOVER FOUR RAISED KNUCKLES;b;bHEEL;aTOUCH SINGLE;bMULTIPLE",
   "bBETWEEN;aGRASP SINGLE;bMULTIPLE;bBETWEEN;aSTRIKE SINGLE;bMULTIPLE;bBETWEEN;aBRUSH SINGLE",
   "bMULTIPLE;bBETWEEN;aRUB SINGLE;bMULTIPLE;bBETWEEN;aSURFACE SYMBOLS;bBETWEEN",
   "aSQUEEZE LARGE SINGLE;bSMALL SINGLE;bLARGE MULTIPLE;bSMALL MULTIPLE;bSEQUENTIAL",
   "aFLICK LARGE SINGLE;bSMALL SINGLE;bLARGE MULTIPLE;bSMALL MULTIPLE;bSEQUENTIAL",
   "aSQUEEZE FLICK ALTERNATING;aMOVEMENT-HINGE UP DOWN LARGE;dSMALL;cSEQUENTIAL;bDOWN SEQUENTIAL",
   "bUP DOWN ALTERNATING LARGE;eSMALL;bSIDE TO SIDE SCISSORS;aMOVEMENT-WALLPLANE FINGER CONTACT",
   "aMOVEMENT-FLOORPLANE FINGER CONTACT;aMOVEMENT-WALLPLANE SINGLE STRAIGHT SMALL;dMEDIUM;dLARGE",
   "dLARGEST;cWRIST FLEX;bDOUBLE STRAIGHT;cWRIST FLEX;cALTERNATING;dWRIST FLEX;bCROSS",
   "bTRIPLE STRAIGHT MOVEMENT;cWRIST FLEX;cALTERNATING;dWRIST FLEX;bBEND SMALL;cMEDIUM;cLARGE",
   "bCORNER SMALL;cMEDIUM;cLARGE;cROTATION;bCHECK SMALL;cMEDIUM;cLARGE;bBOX SMALL;cMEDIUM;cLARGE",
   "bZIGZAG SMALL;cMEDIUM;cLARGE;bPEAKS SMALL;cMEDIUM;cLARGE",
   "aTRAVEL-WALLPLANE ROTATION-WALLPLANE SINGLE;cDOUBLE;cALTERNATING;bROTATION-FLOORPLANE SINGLE",
   "cDOUBLE;cALTERNATING;bSHAKING;bARM SPIRAL SINGLE;dDOUBLE;dTRIPLE;aMOVEMENT-DIAGONAL AWAY SMALL",
   "cMEDIUM;cLARGE;cLARGEST;bTOWARDS SMALL;cMEDIUM;cLARGE;cLARGEST;bBETWEEN AWAY SMALL;dMEDIUM",
   "dLARGE;dLARGEST;cTOWARDS SMALL;dMEDIUM;dLARGE;dLARGEST",
   "aMOVEMENT-FLOORPLANE SINGLE STRAIGHT SMALL;dMEDIUM;dLARGE;dLARGEST;cWRIST FLEX",
   "bDOUBLE STRAIGHT;cWRIST FLEX;cALTERNATING;dWRIST FLEX;bCROSS;bTRIPLE STRAIGHT MOVEMENT",
   "cWRIST FLEX;cALTERNATING MOVEMENT;dWRIST FLEX;bBEND;bCORNER SMALL;cMEDIUM;cLARGE;bCHECK",
   "bBOX SMALL;cMEDIUM;cLARGE;bZIGZAG SMALL;cMEDIUM;cLARGE;bPEAKS SMALL;cMEDIUM;cLARGE",
   "aTRAVEL-FLOORPLANE ROTATION-FLOORPLANE SINGLE;cDOUBLE;cALTERNATING;bROTATION-WALLPLANE SINGLE",
   "cDOUBLE;cALTERNATING;bSHAKING;aMOVEMENT-WALLPLANE CURVE QUARTER SMALL;dMEDIUM;dLARGE;dLARGEST",
   "cHALF-CIRCLE SMALL;dMEDIUM;dLARGE;dLARGEST;cTHREE-QUARTER CIRCLE SMALL;eMEDIUM;bHUMP SMALL",
   "cMEDIUM;cLARGE;bLOOP SMALL;cMEDIUM;cLARGE;cSMALL DOUBLE;bWAVE CURVE DOUBLE SMALL;eMEDIUM",
   "eLARGE;dTRIPLE SMALL;eMEDIUM;eLARGE;bCURVE THEN STRAIGHT;bCURVED CROSS SMALL;dMEDIUM",
   "aROTATION-WALLPLANE SINGLE;bDOUBLE;bALTERNATE;aMOVEMENT-WALLPLANE SHAKING",
   "bCURVE HITTING FRONT WALL;bHUMP HITTING FRONT WALL;bLOOP HITTING FRONT WALL",
   "bWAVE HITTING FRONT WALL;aROTATION-WALLPLANE SINGLE HITTING FRONT WALL",
   "bDOUBLE HITTING FRONT WALL;bALTERNATING HITTING FRONT WALL",
   "aMOVEMENT-WALLPLANE CURVE HITTING CHEST;bHUMP HITTING CHEST;bLOOP HITTING CHEST",
   "bWAVE HITTING CHEST;aROTATION-WALLPLANE SINGLE HITTING CHEST;bDOUBLE HITTING CHEST",
   "bALTERNATING HITTING CHEST;aMOVEMENT-WALLPLANE WAVE DIAGONAL PATH SMALL;eMEDIUM;eLARGE",
   "aMOVEMENT-FLOORPLANE CURVE HITTING CEILING SMALL;eLARGE;bHUMP HITTING CEILING SMALL DOUBLE",
   "eLARGE DOUBLE;eSMALL TRIPLE;eLARGE TRIPLE;bLOOP HITTING CEILING SMALL SINGLE;eLARGE SINGLE",
   "eSMALL DOUBLE;eLARGE DOUBLE;bWAVE HITTING CEILING SMALL;eLARGE",
   "aROTATION-FLOORPLANE SINGLE HITTING CEILING;bDOUBLE HITTING CEILING",
   "bALTERNATING HITTING CEILING;aMOVEMENT-FLOORPLANE CURVE HITTING FLOOR SMALL;eLARGE",
   "bHUMP HITTING FLOOR SMALL DOUBLE;eLARGE DOUBLE;eTRIPLE SMALL TRIPLE;fLARGE TRIPLE",
   "bLOOP HITTING FLOOR SMALL SINGLE;eLARGE SINGLE;eSMALL DOUBLE;eLARGE DOUBLE",
   "bWAVE HITTING FLOOR SMALL;eLARGE;aROTATION-FLOORPLANE SINGLE HITTING FLOOR",
   "bDOUBLE HITTING FLOOR;bALTERNATING HITTING FLOOR;aMOVEMENT-FLOORPLANE CURVE SMALL;cMEDIUM",
   "cLARGE;cLARGEST;cCOMBINED;bHUMP SMALL;bLOOP SMALL;bWAVE SNAKE;cSMALL;cLARGE",
   "aROTATION-FLOORPLANE SINGLE;bDOUBLE;bALTERNATING;aMOVEMENT-FLOORPLANE SHAKING PARALLEL",
   "aMOVEMENT-WALLPLANE ARM CIRCLE SMALL SINGLE;dMEDIUM SINGLE;dSMALL DOUBLE;dMEDIUM DOUBLE",
   "aMOVEMENT-FLOORPLANE ARM CIRCLE HITTING WALL SMALL SINGLE;fMEDIUM SINGLE;fLARGE SINGLE",
   "fSMALL DOUBLE;fMEDIUM DOUBLE;fLARGE DOUBLE;aMOVEMENT-WALLPLANE WRIST CIRCLE FRONT SINGLE",
   "eDOUBLE;aMOVEMENT-FLOORPLANE WRIST CIRCLE HITTING WALL SINGLE;fDOUBLE",
   "aMOVEMENT-WALLPLANE FINGER CIRCLES SINGLE;dDOUBLE",
   "aMOVEMENT-FLOORPLANE FINGER CIRCLES HITTING WALL SINGLE;fDOUBLE;aDYNAMIC ARROWHEAD SMALL",
   "cLARGE;bFAST;bSLOW;bTENSE;bRELAXED;bSIMULTANEOUS;cALTERNATING;bEVERY OTHER TIME;bGRADUAL;aHEAD",
   "bRIM;bMOVEMENT-WALLPLANE STRAIGHT;cTILT;bMOVEMENT-FLOORPLANE STRAIGHT",
   "bMOVEMENT-WALLPLANE CURVE;bMOVEMENT-FLOORPLANE CURVE;bMOVEMENT CIRCLE",
   "aFACE DIRECTION POSITION NOSE FORWARD TILTING;eUP OR DOWN;hTILTING;aEYEBROWS STRAIGHT UP",
   "cNEUTRAL;cDOWN;aDREAMY EYEBROWS NEUTRAL DOWN;cDOWN NEUTRAL;cUP NEUTRAL;cNEUTRAL UP",
   "aFOREHEAD NEUTRAL;bCONTACT;bWRINKLED;aEYES OPEN;bSQUEEZED;bCLOSED;aEYE BLINK SINGLE;cMULTIPLE",
   "aEYES HALF OPEN;bWIDE OPEN;bHALF CLOSED;bWIDENING MOVEMENT;aEYE WINK;aEYELASHES UP;bDOWN",
   "bFLUTTERING;aEYEGAZE-WALLPLANE STRAIGHT;cDOUBLE;cALTERNATING;aEYEGAZE-FLOORPLANE STRAIGHT",
   "cDOUBLE;cALTERNATING;aEYEGAZE-WALLPLANE CURVED;aEYEGAZE-FLOORPLANE CURVED",
   "aEYEGAZE-WALLPLANE CIRCLING;aCHEEKS PUFFED;bNEUTRAL;bSUCKED;aTENSE CHEEKS HIGH;cMIDDLE;cLOW",
   "aEARS;aNOSE NEUTRAL;bCONTACT;bWRINKLES;bWIGGLES;aAIR BLOWING OUT;bSUCKING IN",
   "bBLOW SMALL ROTATIONS;bSUCK SMALL ROTATIONS;aBREATH INHALE;bEXHALE;aMOUTH CLOSED NEUTRAL",
   "cFORWARD;cCONTACT;bSMILE;cWRINKLED;cOPEN;bFROWN;cWRINKLED;cOPEN;bOPEN CIRCLE;cFORWARD",
   "cWRINKLED;cOVAL;dWRINKLED;dYAWN;cRECTANGLE;dWRINKLED;dYAWN;bKISS;cFORWARD;cWRINKLED;bTENSE",
   "cFORWARD;cSUCKED;aLIPS PRESSED TOGETHER;aLIP LOWER OVER UPPER;bUPPER OVER LOWER;aMOUTH CORNERS",
   "bWRINKLES SINGLE;cDOUBLE;aTONGUE STICKING OUT FAR;bLICKING LIPS;bTIP BETWEEN LIPS",
   "cTOUCHING INSIDE MOUTH;bINSIDE MOUTH RELAXED;bMOVES AGAINST CHEEK;bCENTRE STICKING OUT",
   "cINSIDE MOUTH;aTEETH;bMOVEMENT;bON TONGUE;dMOVEMENT;cLIPS;dMOVEMENT;bBITE LIPS",
   "aMOVEMENT-WALLPLANE JAW;aMOVEMENT-FLOORPLANE JAW;aNECK;aHAIR;aEXCITEMENT;aSHOULDER HIP SPINE",
   "cPOSITIONS;aWALLPLANE SHOULDER HIP MOVE;aFLOORPLANE SHOULDER HIP MOVE",
   "aSHOULDER TILTING FROM WAIST;aTORSO-WALLPLANE STRAIGHT STRETCH;bCURVED BEND",
   "aTORSO-FLOORPLANE TWISTING;aUPPER BODY TILTING FROM HIP JOINTS;aLIMB COMBINATION;bLENGTH-1",
   "bLENGTH-2;bLENGTH-3;bLENGTH-4;bLENGTH-5;bLENGTH-6;bLENGTH-7;aFINGER;aLOCATION-WALLPLANE SPACE",
   "aLOCATION-FLOORPLANE SPACE;aLOCATION HEIGHT;bWIDTH;bDEPTH;bHEAD NECK;bTORSO;bLIMBS DIGITS",
   "aCOMMA;aFULL STOP;aSEMICOLON;aCOLON;aPARENTHESIS;1da9b:aFILL MODIFIER-2;bMODIFIER-3",
   "bMODIFIER-4;bMODIFIER-5;bMODIFIER-6;1daa1:aROTATION MODIFIER-2;bMODIFIER-3;bMODIFIER-4",
   "bMODIFIER-5;bMODIFIER-6;bMODIFIER-7;bMODIFIER-8;bMODIFIER-9;bMODIFIER-10;bMODIFIER-11",
   "bMODIFIER-12;bMODIFIER-13;bMODIFIER-14;bMODIFIER-15;bMODIFIER-16",
   "1df00:LATIN SMALL LETTER FENG DIGRAPH WITH TRILL;cREVERSED SCRIPT G",
   "aLETTER SMALL CAPITAL TURNED G;aSMALL LETTER REVERSED K;aLETTER SMALL CAPITAL L WITH BELT",
   "aSMALL LETTER LEZH WITH RETROFLEX HOOK;cTURNED Y WITH BELT;cREVERSED ENG",
   "cTURNED R WITH LONG LEG AND RETROFLEX HOOK;cT WITH HOOK AND RETROFLEX HOOK",
   "aLETTER RETROFLEX CLICK WITH RETROFLEX HOOK;aSMALL LETTER ESH WITH DOUBLE BAR;gAND CURL",
   "cTURNED T WITH CURL;aLETTER INVERTED GLOTTAL STOP WITH CURL;bSTRETCHED C WITH CURL",
   "bSMALL CAPITAL TURNED K;aSMALL LETTER L WITH FISHHOOK;cDEZH DIGRAPH WITH PALATAL HOOK",
   "cL WITH BELT AND PALATAL HOOK;cENG WITH PALATAL HOOK;cTURNED R WITH PALATAL HOOK",
   "cR WITH FISHHOOK AND PALATAL HOOK;cTESH DIGRAPH WITH PALATAL HOOK;cEZH WITH PALATAL HOOK",
   "cDEZH DIGRAPH WITH RETROFLEX HOOK;cI WITH STROKE AND RETROFLEX HOOK;cO WITH RETROFLEX HOOK",
   "cTESH DIGRAPH WITH RETROFLEX HOOK;cC WITH RETROFLEX HOOK;cS WITH CURL",
   "1e000:COMBINING GLAGOLITIC LETTER AZU;cBUKY;cVEDE;cGLAGOLI;cDOBRO;cYESTU;cZHIVETE",
   "1e008:cZEMLJA;cIZHE;cINITIAL IZHE;cI;cDJERVI;cKAKO;cLJUDIJE;cMYSLITE;cNASHI;cONU;cPOKOJI",
   "cRITSI;cSLOVO;cTVRIDO;cUKU;cFRITU;cHERU;1e01b:cSHTA;cTSI;cCHRIVI;cSHA;cYERU;cYERI;cYATI",
   "1e023:cYU;cSMALL YUS;1e026:cYO;cIOTATED SMALL YUS;cBIG YUS;cIOTATED BIG YUS;cFITA",
   "1e100:NYIAKENG PUACHUE HMONG LETTER MA;dTSA;dNTA;dTA;dHA;dNA;dXA;dNKA;dCA;dLA;dSA;dZA;dNCA",
   "dNTSA;dKA;dDA;dNYA;dNRA;dVA;dNTXA;dTXA;dFA;dRA;dQA;dYA;dNQA;dPA;dXYA;dNPA;dDLA;dNPLA;dHAH;dMLA",
   "dPLA;dGA;dRRA;dA;dAA;dI;dU;dO;dOO;dE;dEE;dW;1e130:cTONE-B;cTONE-M;cTONE-J;cTONE-V;cTONE-S",
   "cTONE-G;cTONE-D;cSIGN FOR PERSON;eTHING;eLOCATION;eANIMAL;eINVERTEBRATE;dXW XW",
   "cSYLLABLE LENGTHENER;1e140:cDIGIT ZERO;dONE;dTWO;dTHREE;dFOUR;dFIVE;dSIX;dSEVEN;dEIGHT;dNINE",
   "1e14e:cLOGOGRAM NYAJ;cCIRCLED CA;1e290:TOTO LETTER PA;bBA;bTA;bDA;bKA;bGA;bMA;bNA;bNGA;bSA",
   "bCHA;bYA;bWA;bJA;bHA;bRA;bLA;bI;bBREATHY I;bIU;bBREATHY IU;bU;bE;bBREATHY E;bEO;bBREATHY EO;bO",
   "bAE;bBREATHY AE;bA;aSIGN RISING TONE;1e2c0:WANCHO LETTER AA;bA;bBA;bCA;bDA;bGA;bYA;bPHA;bLA",
   "bNA;bPA;bTA;bTHA;bFA;bSA;bSHA;bJA;bZA;bWA;bVA;bKA;bO;bAU;bRA;bMA;bKHA;bHA;bE;bI;bNGA;bU;bLLHA",
   "bTSA;bTRA;bONG;bAANG;bANG;bING;bON;bEN;bAAN;bNYA;bUEN;bYIH;aTONE TUP;bTUPNI;bKOI;bKOINI",
   "aDIGIT ZERO;bONE;bTWO;bTHREE;bFOUR;bFIVE;bSIX;bSEVEN;bEIGHT;bNINE;1e2ff:aNGUN SIGN",
   "1e7e0:ETHIOPIC SYLLABLE HHYA;bHHYU;bHHYI;bHHYAA;bHHYEE;bHHYE;bHHYO;1e7e8:bGURAGE HHWA;bHHWI",
   "bHHWEE;bHHWE;1e7ed:bGURAGE MWI;cMWEE;1e7f0:cQWI;cQWEE;cQWE;cBWI;cBWEE;cKWI;cKWEE;cKWE;cGWI",
   "cGWEE;cGWE;cFWI;cFWEE;cPWI;cPWEE;1e800:MENDE KIKAKUI SYLLABLE M001 KI;cM002 KA;cM003 KU",
   "cM065 KEE;cM095 KE;cM076 KOO;cM048 KO;cM179 KUA;cM004 WI;cM005 WA;cM006 WU;cM126 WEE;cM118 WE",
   "cM114 WOO;cM045 WO;cM194 WUI;cM143 WEI;cM061 WVI;cM049 WVA;cM139 WVE;cM007 MIN;cM008 MAN",
   "cM009 MUN;cM059 MEN;cM094 MON;cM154 MUAN;cM189 MUEN;cM010 BI;cM011 BA;cM012 BU;cM150 BEE",
   "cM097 BE;cM103 BOO;cM138 BO;cM013 I;cM014 A;cM015 U;cM163 EE;cM100 E;cM165 OO;cM147 O;cM137 EI",
   "cM131 IN;cM135 IN;cM195 AN;cM178 EN;cM019 SI;cM020 SA;cM021 SU;cM162 SEE;cM116 SE;cM136 SOO",
   "cM079 SO;cM196 SIA;cM025 LI;cM026 LA;cM027 LU;cM084 LEE;cM073 LE;cM054 LOO;cM153 LO",
   "cM110 LONG LE;cM016 DI;cM017 DA;cM018 DU;cM089 DEE;cM180 DOO;cM181 DO;cM022 TI;cM023 TA",
   "cM024 TU;cM091 TEE;cM055 TE;cM104 TOO;cM069 TO;cM028 JI;cM029 JA;cM030 JU;cM157 JEE;cM113 JE",
   "cM160 JOO;cM063 JO;cM175 LONG JO;cM031 YI;cM032 YA;cM033 YU;cM109 YEE;cM080 YE;cM141 YOO",
   "cM121 YO;cM034 FI;cM035 FA;cM036 FU;cM078 FEE;cM075 FE;cM133 FOO;cM088 FO;cM197 FUA;cM101 FAN",
   "cM037 NIN;cM038 NAN;cM039 NUN;cM117 NEN;cM169 NON;cM176 HI;cM041 HA;cM186 HU;cM040 HEE",
   "cM096 HE;cM042 HOO;cM140 HO;cM083 HEEI;cM128 HOOU;cM053 HIN;cM130 HAN;cM087 HUN;cM052 HEN",
   "cM193 HON;cM046 HUAN;cM090 NGGI;cM043 NGGA;cM082 NGGU;cM115 NGGEE;cM146 NGGE;cM156 NGGOO",
   "cM120 NGGO;cM159 NGGAA;cM127 NGGUA;cM086 LONG NGGE;cM106 LONG NGGOO;cM183 LONG NGGO;cM155 GI",
   "cM111 GA;cM168 GU;cM190 GEE;cM166 GUEI;cM167 GUAN;cM184 NGEN;cM057 NGON;cM177 NGUAN;cM068 PI",
   "cM099 PA;cM050 PU;cM081 PEE;cM051 PE;cM102 POO;cM066 PO;cM145 MBI;cM062 MBA;cM122 MBU",
   "cM047 MBEE;cM188 MBEE;cM072 MBE;cM172 MBOO;cM174 MBO;cM187 MBUU;cM161 LONG MBE;cM105 LONG MBOO",
   "cM142 LONG MBO;cM132 KPI;cM092 KPA;cM074 KPU;cM044 KPEE;cM108 KPE;cM112 KPOO;cM158 KPO",
   "cM124 GBI;cM056 GBA;cM148 GBU;cM093 GBEE;cM107 GBE;cM071 GBOO;cM070 GBO;cM171 RA;cM123 NDI",
   "cM129 NDA;cM125 NDU;cM191 NDEE;cM119 NDE;cM067 NDOO;cM064 NDO;cM152 NJA;cM192 NJU;cM149 NJEE",
   "cM134 NJOO;cM182 VI;cM185 VA;cM151 VU;cM173 VEE;cM085 VE;cM144 VOO;cM077 VO;cM164 NYIN",
   "cM058 NYAN;cM170 NYUN;cM098 NYEN;cM060 NYON;1e8c7:bDIGIT ONE;cTWO;cTHREE;cFOUR;cFIVE;cSIX",
   "cSEVEN;cEIGHT;cNINE;bCOMBINING NUMBER TEENS;dTENS;dHUNDREDS;dTHOUSANDS;dTEN THOUSANDS",
   "dHUNDRED THOUSANDS;dMILLIONS;1e900:ADLAM CAPITAL LETTER ALIF;cDAALI;cLAAM;cMIIM;cBA",
   "cSINNYIIYHE;cPE;cBHE;cRA;cE;cFA;cI;cO;cDHA;cYHE;cWAW;cNUN;cKAF;cYA;cU;cJIIM;cCHI;cHA;cQAAF;cGA",
   "cNYA;cTU;cNHA;cVA;cKHA;cGBE;cZAL;cKPO;cSHA;aSMALL LETTER ALIF;cDAALI;cLAAM;cMIIM;cBA",
   "cSINNYIIYHE;cPE;cBHE;cRA;cE;cFA;cI;cO;cDHA;cYHE;cWAW;cNUN;cKAF;cYA;cU;cJIIM;cCHI;cHA;cQAAF;cGA",
   "cNYA;cTU;cNHA;cVA;cKHA;cGBE;cZAL;cKPO;cSHA;aALIF LENGTHENER;aVOWEL LENGTHENER;aGEMINATION MARK",
   "aHAMZA;aCONSONANT MODIFIER;aGEMINATE CONSONANT MODIFIER;aNUKTA;aNASALIZATION MARK",
   "1e950:aDIGIT ZERO;bONE;bTWO;bTHREE;bFOUR;bFIVE;bSIX;bSEVEN;bEIGHT;bNINE",
   "1e95e:aINITIAL EXCLAMATION MARK;bQUESTION MARK;1ec71:INDIC SIYAQ NUMBER ONE;cTWO;cTHREE;cFOUR",
   "cFIVE;cSIX;cSEVEN;cEIGHT;cNINE;cTEN;cTWENTY;cTHIRTY;cFORTY;cFIFTY;cSIXTY;cSEVENTY;cEIGHTY",
   "cNINETY;cONE HUNDRED;cTWO HUNDRED;cTHREE HUNDRED;cFOUR HUNDRED;cFIVE HUNDRED;cSIX HUNDRED",
   "cSEVEN HUNDRED;cEIGHT HUNDRED;cNINE HUNDRED;cONE THOUSAND;cTWO THOUSAND;cTHREE THOUSAND",
   "cFOUR THOUSAND;cFIVE THOUSAND;cSIX THOUSAND;cSEVEN THOUSAND;cEIGHT THOUSAND;cNINE THOUSAND",
   "cTEN THOUSAND;cTWENTY THOUSAND;cTHIRTY THOUSAND;cFORTY THOUSAND;cFIFTY THOUSAND",
   "cSIXTY THOUSAND;cSEVENTY THOUSAND;cEIGHTY THOUSAND;cNINETY THOUSAND;cLAKH;cLAKHAN;bLAKH MARK",
   "bNUMBER KAROR;cKARORAN;cPREFIXED ONE;dTWO;dTHREE;dFOUR;dFIVE;dSIX;dSEVEN;dEIGHT;dNINE",
   "bPLACEHOLDER;bFRACTION ONE QUARTER;dHALF;cTHREE QUARTERS;bRUPEE MARK;bNUMBER ALTERNATE ONE",
   "dTWO;dTEN THOUSAND;bALTERNATE LAKH MARK;1ed01:OTTOMAN SIYAQ NUMBER ONE;cTWO;cTHREE;cFOUR;cFIVE",
   "cSIX;cSEVEN;cEIGHT;cNINE;cTEN;cTWENTY;cTHIRTY;cFORTY;cFIFTY;cSIXTY;cSEVENTY;cEIGHTY;cNINETY",
   "cONE HUNDRED;cTWO HUNDRED;cTHREE HUNDRED;cFOUR HUNDRED;cFIVE HUNDRED;cSIX HUNDRED",
   "cSEVEN HUNDRED;cEIGHT HUNDRED;cNINE HUNDRED;cONE THOUSAND;cTWO THOUSAND;cTHREE THOUSAND",
   "cFOUR THOUSAND;cFIVE THOUSAND;cSIX THOUSAND;cSEVEN THOUSAND;cEIGHT THOUSAND;cNINE THOUSAND",
   "cTEN THOUSAND;cTWENTY THOUSAND;cTHIRTY THOUSAND;cFORTY THOUSAND;cFIFTY THOUSAND",
   "cSIXTY THOUSAND;cSEVENTY THOUSAND;cEIGHTY THOUSAND;cNINETY THOUSAND;bMARRATAN",
   "bALTERNATE NUMBER TWO;dTHREE;dFOUR;dFIVE;dSIX;dSEVEN;dEIGHT;dNINE;dTEN;dFOUR HUNDRED",
   "dSIX HUNDRED;dTWO THOUSAND;dTEN THOUSAND;bFRACTION ONE HALF;dSIXTH",
   "1ee00:ARABIC MATHEMATICAL ALEF;bBEH;bJEEM;bDAL;1ee05:bWAW;bZAIN;bHAH;bTAH;bYEH;bKAF;bLAM;bMEEM",
   "bNOON;bSEEN;bAIN;bFEH;bSAD;bQAF;bREH;bSHEEN;bTEH;bTHEH;bKHAH;bTHAL;bDAD;bZAH;bGHAIN",
   "bDOTLESS BEH;cNOON;cFEH;cQAF;1ee21:bINITIAL BEH;cJEEM;1ee24:cHEH;1ee27:cHAH;1ee29:cYEH;cKAF",
   "cLAM;cMEEM;cNOON;cSEEN;cAIN;cFEH;cSAD;cQAF;1ee34:cSHEEN;cTEH;cTHEH;cKHAH;1ee39:cDAD",
   "1ee3b:cGHAIN;1ee42:bTAILED JEEM;1ee47:cHAH;1ee49:cYEH;1ee4b:cLAM;1ee4d:cNOON;cSEEN;cAIN",
   "1ee51:cSAD;cQAF;1ee54:cSHEEN;1ee57:cKHAH;1ee59:cDAD;1ee5b:cGHAIN;1ee5d:cDOTLESS NOON",
   "1ee5f:dQAF;1ee61:bSTRETCHED BEH;cJEEM;1ee64:cHEH;1ee67:cHAH;cTAH;cYEH;cKAF;1ee6c:cMEEM;cNOON",
   "cSEEN;cAIN;cFEH;cSAD;cQAF;1ee74:cSHEEN;cTEH;cTHEH;cKHAH;1ee79:cDAD;cZAH;cGHAIN;cDOTLESS BEH",
   "1ee7e:dFEH;1ee80:bLOOPED ALEF;cBEH;cJEEM;cDAL;cHEH;cWAW;cZAIN;cHAH;cTAH;cYEH;1ee8b:cLAM;cMEEM",
   "cNOON;cSEEN;cAIN;cFEH;cSAD;cQAF;cREH;cSHEEN;cTEH;cTHEH;cKHAH;cTHAL;cDAD;cZAH;cGHAIN",
   "1eea1:bDOUBLE-STRUCK BEH;cJEEM;cDAL;1eea5:cWAW;cZAIN;cHAH;cTAH;cYEH;1eeab:cLAM;cMEEM;cNOON",
   "cSEEN;cAIN;cFEH;cSAD;cQAF;cREH;cSHEEN;cTEH;cTHEH;cKHAH;cTHAL;cDAD;cZAH;cGHAIN",
   "1eef0:bOPERATOR MEEM WITH HAH WITH TATWEEL;cHAH WITH DAL;1f000:MAHJONG TILE EAST WIND",
   "bSOUTH WIND;bWEST WIND;bNORTH WIND;bRED DRAGON;bGREEN DRAGON;bWHITE DRAGON;bONE OF CHARACTERS",
   "bTWO OF CHARACTERS;bTHREE OF CHARACTERS;bFOUR OF CHARACTERS;bFIVE OF CHARACTERS",
   "bSIX OF CHARACTERS;bSEVEN OF CHARACTERS;bEIGHT OF CHARACTERS;bNINE OF CHARACTERS",
   "bONE OF BAMBOOS;bTWO OF BAMBOOS;bTHREE OF BAMBOOS;bFOUR OF BAMBOOS;bFIVE OF BAMBOOS",
   "bSIX OF BAMBOOS;bSEVEN OF BAMBOOS;bEIGHT OF BAMBOOS;bNINE OF BAMBOOS;bONE OF CIRCLES",
   "bTWO OF CIRCLES;bTHREE OF CIRCLES;bFOUR OF CIRCLES;bFIVE OF CIRCLES;bSIX OF CIRCLES",
   "bSEVEN OF CIRCLES;bEIGHT OF CIRCLES;bNINE OF CIRCLES;bPLUM;bORCHID;bBAMBOO;bCHRYSANTHEMUM",
   "bSPRING;bSUMMER;bAUTUMN;bWINTER;bJOKER;bBACK;1f030:DOMINO TILE HORIZONTAL BACK",
   "bHORIZONTAL-00-00;bHORIZONTAL-00-01;bHORIZONTAL-00-02;bHORIZONTAL-00-03;bHORIZONTAL-00-04",
   "bHORIZONTAL-00-05;bHORIZONTAL-00-06;bHORIZONTAL-01-00;bHORIZONTAL-01-01;bHORIZONTAL-01-02",
   "bHORIZONTAL-01-03;bHORIZONTAL-01-04;bHORIZONTAL-01-05;bHORIZONTAL-01-06;bHORIZONTAL-02-00",
   "bHORIZONTAL-02-01;bHORIZONTAL-02-02;bHORIZONTAL-02-03;bHORIZONTAL-02-04;bHORIZONTAL-02-05",
   "bHORIZONTAL-02-06;bHORIZONTAL-03-00;bHORIZONTAL-03-01;bHORIZONTAL-03-02;bHORIZONTAL-03-03",
   "bHORIZONTAL-03-04;bHORIZONTAL-03-05;bHORIZONTAL-03-06;bHORIZONTAL-04-00;bHORIZONTAL-04-01",
   "bHORIZONTAL-04-02;bHORIZONTAL-04-03;bHORIZONTAL-04-04;bHORIZONTAL-04-05;bHORIZONTAL-04-06",
   "bHORIZONTAL-05-00;bHORIZONTAL-05-01;bHORIZONTAL-05-02;bHORIZONTAL-05-03;bHORIZONTAL-05-04",
   "bHORIZONTAL-05-05;bHORIZONTAL-05-06;bHORIZONTAL-06-00;bHORIZONTAL-06-01;bHORIZONTAL-06-02",
   "bHORIZONTAL-06-03;bHORIZONTAL-06-04;bHORIZONTAL-06-05;bHORIZONTAL-06-06;bVERTICAL BACK",
   "bVERTICAL-00-00;bVERTICAL-00-01;bVERTICAL-00-02;bVERTICAL-00-03;bVERTICAL-00-04",
   "bVERTICAL-00-05;bVERTICAL-00-06;bVERTICAL-01-00;bVERTICAL-01-01;bVERTICAL-01-02",
   "bVERTICAL-01-03;bVERTICAL-01-04;bVERTICAL-01-05;bVERTICAL-01-06;bVERTICAL-02-00",
   "bVERTICAL-02-01;bVERTICAL-02-02;bVERTICAL-02-03;bVERTICAL-02-04;bVERTICAL-02-05",
   "bVERTICAL-02-06;bVERTICAL-03-00;bVERTICAL-03-01;bVERTICAL-03-02;bVERTICAL-03-03",
   "bVERTICAL-03-04;bVERTICAL-03-05;bVERTICAL-03-06;bVERTICAL-04-00;bVERTICAL-04-01",
   "bVERTICAL-04-02;bVERTICAL-04-03;bVERTICAL-04-04;bVERTICAL-04-05;bVERTICAL-04-06",
   "bVERTICAL-05-00;bVERTICAL-05-01;bVERTICAL-05-02;bVERTICAL-05-03;bVERTICAL-05-04",
   "bVERTICAL-05-05;bVERTICAL-05-06;bVERTICAL-06-00;bVERTICAL-06-01;bVERTICAL-06-02",
   "bVERTICAL-06-03;bVERTICAL-06-04;bVERTICAL-06-05;bVERTICAL-06-06;1f0a0:PLAYING CARD BACK",
   "bACE OF SPADES;bTWO OF SPADES;bTHREE OF SPADES;bFOUR OF SPADES;bFIVE OF SPADES;bSIX OF SPADES",
   "bSEVEN OF SPADES;bEIGHT OF SPADES;bNINE OF SPADES;bTEN OF SPADES;bJACK OF SPADES",
   "bKNIGHT OF SPADES;bQUEEN OF SPADES;bKING OF SPADES;1f0b1:bACE OF HEARTS;bTWO OF HEARTS",
   "bTHREE OF HEARTS;bFOUR OF HEARTS;bFIVE OF HEARTS;bSIX OF HEARTS;bSEVEN OF HEARTS",
   "bEIGHT OF HEARTS;bNINE OF HEARTS;bTEN OF HEARTS;bJACK OF HEARTS;bKNIGHT OF HEARTS",
   "bQUEEN OF HEARTS;bKING OF HEARTS;bRED JOKER;1f0c1:bACE OF DIAMONDS;bTWO OF DIAMONDS",
   "bTHREE OF DIAMONDS;bFOUR OF DIAMONDS;bFIVE OF DIAMONDS;bSIX OF DIAMONDS;bSEVEN OF DIAMONDS",
   "bEIGHT OF DIAMONDS;bNINE OF DIAMONDS;bTEN OF DIAMONDS;bJACK OF DIAMONDS;bKNIGHT OF DIAMONDS",
   "bQUEEN OF DIAMONDS;bKING OF DIAMONDS;bBLACK JOKER;1f0d1:bACE OF CLUBS;bTWO OF CLUBS",
   "bTHREE OF CLUBS;bFOUR OF CLUBS;bFIVE OF CLUBS;bSIX OF CLUBS;bSEVEN OF CLUBS;bEIGHT OF CLUBS",
   "bNINE OF CLUBS;bTEN OF CLUBS;bJACK OF CLUBS;bKNIGHT OF CLUBS;bQUEEN OF CLUBS;bKING OF CLUBS",
   "bWHITE JOKER;bFOOL;bTRUMP-1;bTRUMP-2;bTRUMP-3;bTRUMP-4;bTRUMP-5;bTRUMP-6;bTRUMP-7;bTRUMP-8",
   "bTRUMP-9;bTRUMP-10;bTRUMP-11;bTRUMP-12;bTRUMP-13;bTRUMP-14;bTRUMP-15;bTRUMP-16;bTRUMP-17",
   "bTRUMP-18;bTRUMP-19;bTRUMP-20;bTRUMP-21;1f100:DIGIT ZERO FULL STOP;bCOMMA;aONE COMMA",
   "aTWO COMMA;aTHREE COMMA;aFOUR COMMA;aFIVE COMMA;aSIX COMMA;aSEVEN COMMA;aEIGHT COMMA",
   "aNINE COMMA;DINGBAT CIRCLED SANS-SERIF DIGIT ZERO;aNEGATIVE CIRCLED SANS-SERIF DIGIT ZERO",
   "CIRCLED ZERO WITH SLASH;aANTICLOCKWISE ARROW;aDOLLAR SIGN WITH OVERLAID BACKSLASH",
   "PARENTHESIZED LATIN CAPITAL LETTER A;dB;dC;dD;dE;dF;dG;dH;dI;dJ;dK;dL;dM;dN;dO;dP;dQ;dR;dS;dT",
   "dU;dV;dW;dX;dY;dZ;TORTOISE SHELL BRACKETED LATIN CAPITAL LETTER S",
   "CIRCLED ITALIC LATIN CAPITAL LETTER C;eR;aCD;aWZ;COPYLEFT SYMBOL",
   "SQUARED LATIN CAPITAL LETTER A;dB;dC;dD;dE;dF;dG;dH;dI;dJ;dK;dL;dM;dN;dO;dP;dQ;dR;dS;dT;dU;dV",
   "dW;dX;dY;dZ;aHV;aMV;aSD;aSS;aPPV;aWC;NEGATIVE CIRCLED LATIN CAPITAL LETTER A;eB;eC;eD;eE;eF;eG",
   "eH;eI;eJ;eK;eL;eM;eN;eO;eP;eQ;eR;eS;eT;eU;eV;eW;eX;eY;eZ;RAISED MC SIGN;aMD SIGN;aMR SIGN",
   "CIRCLED CC;aC WITH OVERLAID BACKSLASH;aHUMAN FIGURE;NEGATIVE SQUARED LATIN CAPITAL LETTER A;eB",
   "eC;eD;eE;eF;eG;eH;eI;eJ;eK;eL;eM;eN;eO;eP;eQ;eR;eS;eT;eU;eV;eW;eX;eY;eZ",
   "CROSSED NEGATIVE SQUARED LATIN CAPITAL LETTER P;NEGATIVE SQUARED IC;bPA;bSA;bAB;bWC;SQUARE DJ",
   "SQUARED CL;aCOOL;aFREE;aID;aNEW;aNG;aOK;aSOS;aUP WITH EXCLAMATION MARK;aVS;aTHREE D",
   "aSECOND SCREEN;aTWO K;aFOUR K;aEIGHT K;aFIVE POINT ONE;aSEVEN POINT ONE;aTWENTY-TWO POINT TWO",
   "aSIXTY P;aONE HUNDRED TWENTY P;aLATIN SMALL LETTER D;aHC;aHDR;aHI-RES;aLOSSLESS;aSHV;aUHD;aVOD",
   "MASK WORK SYMBOL;1f1e6:REGIONAL INDICATOR SYMBOL LETTER A;dB;dC;dD;dE;dF;dG;dH;dI;dJ;dK;dL;dM",
   "dN;dO;dP;dQ;dR;dS;dT;dU;dV;dW;dX;dY;dZ;SQUARE HIRAGANA HOKA;SQUARED KATAKANA KOKO;bSA",
   "1f210:aCJK UNIFIED IDEOGRAPH-624B;cIDEOGRAPH-5B57;cIDEOGRAPH-53CC;aKATAKANA DE",
   "aCJK UNIFIED IDEOGRAPH-4E8C;cIDEOGRAPH-591A;cIDEOGRAPH-89E3;cIDEOGRAPH-5929;cIDEOGRAPH-4EA4",
   "cIDEOGRAPH-6620;cIDEOGRAPH-7121;cIDEOGRAPH-6599;cIDEOGRAPH-524D;cIDEOGRAPH-5F8C",
   "cIDEOGRAPH-518D;cIDEOGRAPH-65B0;cIDEOGRAPH-521D;cIDEOGRAPH-7D42;cIDEOGRAPH-751F",
   "cIDEOGRAPH-8CA9;cIDEOGRAPH-58F0;cIDEOGRAPH-5439;cIDEOGRAPH-6F14;cIDEOGRAPH-6295",
   "cIDEOGRAPH-6355;cIDEOGRAPH-4E00;cIDEOGRAPH-4E09;cIDEOGRAPH-904A;cIDEOGRAPH-5DE6",
   "cIDEOGRAPH-4E2D;cIDEOGRAPH-53F3;cIDEOGRAPH-6307;cIDEOGRAPH-8D70;cIDEOGRAPH-6253",
   "cIDEOGRAPH-7981;cIDEOGRAPH-7A7A;cIDEOGRAPH-5408;cIDEOGRAPH-6E80;cIDEOGRAPH-6709",
   "cIDEOGRAPH-6708;cIDEOGRAPH-7533;cIDEOGRAPH-5272;cIDEOGRAPH-55B6;cIDEOGRAPH-914D",
   "1f240:TORTOISE SHELL BRACKETED CJK UNIFIED IDEOGRAPH-672C;eIDEOGRAPH-4E09;eIDEOGRAPH-4E8C",
   "eIDEOGRAPH-5B89;eIDEOGRAPH-70B9;eIDEOGRAPH-6253;eIDEOGRAPH-76D7;eIDEOGRAPH-52DD",
   "eIDEOGRAPH-6557;1f250:CIRCLED IDEOGRAPH ADVANTAGE;bACCEPT;1f260:ROUNDED SYMBOL FOR FU;cLU",
   "cSHOU;cXI;cSHUANGXI;cCAI;1f300:CYCLONE;FOGGY;CLOSED UMBRELLA;NIGHT WITH STARS",
   "SUNRISE OVER MOUNTAINS;a;CITYSCAPE AT DUSK;SUNSET OVER BUILDINGS;RAINBOW;BRIDGE AT NIGHT",
   "WATER WAVE;VOLCANO;MILKY WAY;EARTH GLOBE EUROPE-AFRICA;bAMERICAS;bASIA-AUSTRALIA",
   "GLOBE WITH MERIDIANS;NEW MOON SYMBOL;WAXING CRESCENT MOON SYMBOL;FIRST QUARTER MOON SYMBOL",
   "WAXING GIBBOUS MOON SYMBOL;FULL MOON SYMBOL;WANING GIBBOUS MOON SYMBOL",
   "LAST QUARTER MOON SYMBOL;WANING CRESCENT MOON SYMBOL;CRESCENT MOON;NEW MOON WITH FACE",
   "FIRST QUARTER MOON WITH FACE;LAST QUARTER MOON WITH FACE;FULL MOON WITH FACE;SUN WITH FACE",
   "GLOWING STAR;SHOOTING STAR;THERMOMETER;BLACK DROPLET;WHITE SUN;bWITH SMALL CLOUD;bBEHIND CLOUD",
   "dWITH RAIN;CLOUD WITH RAIN;bSNOW;bLIGHTNING;bTORNADO;FOG;WIND BLOWING FACE;HOT DOG;TACO",
   "BURRITO;CHESTNUT;SEEDLING;EVERGREEN TREE;DECIDUOUS TREE;PALM TREE;CACTUS;HOT PEPPER;TULIP",
   "CHERRY BLOSSOM;ROSE;HIBISCUS;SUNFLOWER;BLOSSOM;EAR OF MAIZE;bRICE;HERB;FOUR LEAF CLOVER",
   "MAPLE LEAF;FALLEN LEAF;LEAF FLUTTERING IN WIND;MUSHROOM;TOMATO;AUBERGINE;GRAPES;MELON",
   "WATERMELON;TANGERINE;LEMON;BANANA;PINEAPPLE;RED APPLE;GREEN APPLE;PEAR;PEACH;CHERRIES",
   "STRAWBERRY;HAMBURGER;SLICE OF PIZZA;MEAT ON BONE;POULTRY LEG;RICE CRACKER;aBALL;COOKED RICE",
   "CURRY AND RICE;STEAMING BOWL;SPAGHETTI;BREAD;FRENCH FRIES;ROASTED SWEET POTATO;DANGO;ODEN",
   "SUSHI;FRIED SHRIMP;FISH CAKE WITH SWIRL DESIGN;SOFT ICE CREAM;SHAVED ICE;ICE CREAM;DOUGHNUT",
   "COOKIE;CHOCOLATE BAR;CANDY;LOLLIPOP;CUSTARD;HONEY POT;SHORTCAKE;BENTO BOX;POT OF FOOD;COOKING",
   "FORK AND KNIFE;TEACUP WITHOUT HANDLE;SAKE BOTTLE AND CUP;WINE GLASS;COCKTAIL GLASS",
   "TROPICAL DRINK;BEER MUG;CLINKING BEER MUGS;BABY BOTTLE;FORK AND KNIFE WITH PLATE",
   "BOTTLE WITH POPPING CORK;POPCORN;RIBBON;WRAPPED PRESENT;BIRTHDAY CAKE;JACK-O-LANTERN",
   "CHRISTMAS TREE;FATHER CHRISTMAS;FIREWORKS;FIREWORK SPARKLER;BALLOON;PARTY POPPER;CONFETTI BALL",
   "TANABATA TREE;CROSSED FLAGS;PINE DECORATION;JAPANESE DOLLS;CARP STREAMER;WIND CHIME",
   "MOON VIEWING CEREMONY;SCHOOL SATCHEL;GRADUATION CAP;HEART WITH TIP ON THE LEFT",
   "BOUQUET OF FLOWERS;MILITARY MEDAL;REMINDER RIBBON;MUSICAL KEYBOARD WITH JACKS",
   "STUDIO MICROPHONE;LEVEL SLIDER;CONTROL KNOBS;BEAMED ASCENDING MUSICAL NOTES",
   "aDESCENDING MUSICAL NOTES;FILM FRAMES;ADMISSION TICKETS;CAROUSEL HORSE;FERRIS WHEEL",
   "ROLLER COASTER;FISHING POLE AND FISH;MICROPHONE;MOVIE CAMERA;CINEMA;HEADPHONE;ARTIST PALETTE",
   "TOP HAT;CIRCUS TENT;TICKET;CLAPPER BOARD;PERFORMING ARTS;VIDEO GAME;DIRECT HIT;SLOT MACHINE",
   "BILLIARDS;GAME DIE;BOWLING;FLOWER PLAYING CARDS;MUSICAL NOTE;MULTIPLE MUSICAL NOTES;SAXOPHONE",
   "GUITAR;MUSICAL KEYBOARD;TRUMPET;VIOLIN;MUSICAL SCORE;RUNNING SHIRT WITH SASH",
   "TENNIS RACQUET AND BALL;SKI AND SKI BOOT;BASKETBALL AND HOOP;CHEQUERED FLAG;SNOWBOARDER;RUNNER",
   "SURFER;SPORTS MEDAL;TROPHY;HORSE RACING;AMERICAN FOOTBALL;RUGBY FOOTBALL;SWIMMER;WEIGHT LIFTER",
   "GOLFER;RACING MOTORCYCLE;aCAR;CRICKET BAT AND BALL;VOLLEYBALL;FIELD HOCKEY STICK AND BALL",
   "ICE HOCKEY STICK AND PUCK;TABLE TENNIS PADDLE AND BALL;SNOW CAPPED MOUNTAIN;CAMPING",
   "BEACH WITH UMBRELLA;BUILDING CONSTRUCTION;HOUSE BUILDINGS;CITYSCAPE;DERELICT HOUSE BUILDING",
   "CLASSICAL BUILDING;DESERT;aISLAND;NATIONAL PARK;STADIUM;HOUSE BUILDING;aWITH GARDEN",
   "OFFICE BUILDING;JAPANESE POST OFFICE;EUROPEAN POST OFFICE;HOSPITAL;BANK",
   "AUTOMATED TELLER MACHINE;HOTEL;LOVE HOTEL;CONVENIENCE STORE;SCHOOL;DEPARTMENT STORE;FACTORY",
   "IZAKAYA LANTERN;JAPANESE CASTLE;EUROPEAN CASTLE;WHITE PENNANT;BLACK PENNANT;WAVING WHITE FLAG",
   "aBLACK FLAG;ROSETTE;BLACK ROSETTE;LABEL;BADMINTON RACQUET AND SHUTTLECOCK;BOW AND ARROW",
   "AMPHORA;EMOJI MODIFIER FITZPATRICK TYPE-1-2;cTYPE-3;cTYPE-4;cTYPE-5;cTYPE-6;RAT;MOUSE;OX",
   "WATER BUFFALO;COW;TIGER;LEOPARD;RABBIT;CAT;DRAGON;CROCODILE;WHALE;SNAIL;SNAKE;HORSE;RAM;GOAT",
   "SHEEP;MONKEY;ROOSTER;CHICKEN;DOG;PIG;BOAR;ELEPHANT;OCTOPUS;SPIRAL SHELL;BUG;ANT;HONEYBEE",
   "LADY BEETLE;FISH;TROPICAL FISH;BLOWFISH;TURTLE;HATCHING CHICK;BABY CHICK",
   "FRONT-FACING BABY CHICK;BIRD;PENGUIN;KOALA;POODLE;DROMEDARY CAMEL;BACTRIAN CAMEL;DOLPHIN",
   "MOUSE FACE;COW FACE;TIGER FACE;RABBIT FACE;CAT FACE;DRAGON FACE;SPOUTING WHALE;HORSE FACE",
   "MONKEY FACE;DOG FACE;PIG FACE;FROG FACE;HAMSTER FACE;WOLF FACE;BEAR FACE;PANDA FACE;PIG NOSE",
   "PAW PRINTS;CHIPMUNK;EYES;EYE;EAR;NOSE;MOUTH;TONGUE;WHITE UP POINTING BACKHAND INDEX",
   "aDOWN POINTING BACKHAND INDEX;aLEFT POINTING BACKHAND INDEX;aRIGHT POINTING BACKHAND INDEX",
   "FISTED HAND SIGN;WAVING HAND SIGN;OK HAND SIGN;THUMBS UP SIGN;aDOWN SIGN;CLAPPING HANDS SIGN",
   "OPEN HANDS SIGN;CROWN;WOMANS HAT;EYEGLASSES;NECKTIE;T-SHIRT;JEANS;DRESS;KIMONO;BIKINI",
   "WOMANS CLOTHES;PURSE;HANDBAG;POUCH;MANS SHOE;ATHLETIC SHOE;HIGH-HEELED SHOE;WOMANS SANDAL",
   "aBOOTS;FOOTPRINTS;BUST IN SILHOUETTE;BUSTS IN SILHOUETTE;BOY;GIRL;MAN;WOMAN;FAMILY",
   "MAN AND WOMAN HOLDING HANDS;TWO MEN HOLDING HANDS;aWOMEN HOLDING HANDS;POLICE OFFICER",
   "WOMAN WITH BUNNY EARS;BRIDE WITH VEIL;PERSON WITH BLOND HAIR;MAN WITH GUA PI MAO;bTURBAN",
   "OLDER MAN;aWOMAN;BABY;CONSTRUCTION WORKER;PRINCESS;JAPANESE OGRE;aGOBLIN;GHOST;BABY ANGEL",
   "EXTRATERRESTRIAL ALIEN;ALIEN MONSTER;IMP;SKULL;INFORMATION DESK PERSON;GUARDSMAN;DANCER",
   "LIPSTICK;NAIL POLISH;FACE MASSAGE;HAIRCUT;BARBER POLE;SYRINGE;PILL;KISS MARK;LOVE LETTER;RING",
   "GEM STONE;KISS;BOUQUET;COUPLE WITH HEART;WEDDING;BEATING HEART;BROKEN HEART;TWO HEARTS",
   "SPARKLING HEART;GROWING HEART;HEART WITH ARROW;BLUE HEART;GREEN HEART;YELLOW HEART",
   "PURPLE HEART;HEART WITH RIBBON;REVOLVING HEARTS;HEART DECORATION",
   "DIAMOND SHAPE WITH A DOT INSIDE;ELECTRIC LIGHT BULB;ANGER SYMBOL;BOMB;SLEEPING SYMBOL",
   "COLLISION SYMBOL;SPLASHING SWEAT SYMBOL;DROPLET;DASH SYMBOL;PILE OF POO;FLEXED BICEPS",
   "DIZZY SYMBOL;SPEECH BALLOON;THOUGHT BALLOON;WHITE FLOWER;HUNDRED POINTS SYMBOL;MONEY BAG",
   "CURRENCY EXCHANGE;HEAVY DOLLAR SIGN;CREDIT CARD;BANKNOTE WITH YEN SIGN;bDOLLAR SIGN;bEURO SIGN",
   "bPOUND SIGN;MONEY WITH WINGS;CHART WITH UPWARDS TREND AND YEN SIGN;SEAT;PERSONAL COMPUTER",
   "BRIEFCASE;MINIDISC;FLOPPY DISK;OPTICAL DISC;DVD;FILE FOLDER;OPEN FILE FOLDER;PAGE WITH CURL",
   "aFACING UP;CALENDAR;TEAR-OFF CALENDAR;CARD INDEX;CHART WITH UPWARDS TREND;bDOWNWARDS TREND",
   "BAR CHART;CLIPBOARD;PUSHPIN;ROUND PUSHPIN;PAPERCLIP;STRAIGHT RULER;TRIANGULAR RULER",
   "BOOKMARK TABS;LEDGER;NOTEBOOK;aWITH DECORATIVE COVER;CLOSED BOOK;OPEN BOOK;GREEN BOOK",
   "BLUE BOOK;ORANGE BOOK;BOOKS;NAME BADGE;SCROLL;MEMO;TELEPHONE RECEIVER;PAGER;FAX MACHINE",
   "SATELLITE ANTENNA;PUBLIC ADDRESS LOUDSPEAKER;CHEERING MEGAPHONE;OUTBOX TRAY;INBOX TRAY;PACKAGE",
   "E-MAIL SYMBOL;INCOMING ENVELOPE;ENVELOPE WITH DOWNWARDS ARROW ABOVE",
   "CLOSED MAILBOX WITH LOWERED FLAG;cRAISED FLAG;OPEN MAILBOX WITH RAISED FLAG;cLOWERED FLAG",
   "POSTBOX;POSTAL HORN;NEWSPAPER;MOBILE PHONE;bWITH RIGHTWARDS ARROW AT LEFT;VIBRATION MODE",
   "MOBILE PHONE OFF;NO MOBILE PHONES;ANTENNA WITH BARS;CAMERA;aWITH FLASH;VIDEO CAMERA;TELEVISION",
   "RADIO;VIDEOCASSETTE;FILM PROJECTOR;PORTABLE STEREO;PRAYER BEADS;TWISTED RIGHTWARDS ARROWS",
   "CLOCKWISE RIGHTWARDS AND LEFTWARDS OPEN CIRCLE ARROWS;gWITH CIRCLED ONE OVERLAY",
   "aDOWNWARDS AND UPWARDS OPEN CIRCLE ARROWS",
   "ANTICLOCKWISE DOWNWARDS AND UPWARDS OPEN CIRCLE ARROWS;LOW BRIGHTNESS SYMBOL",
   "HIGH BRIGHTNESS SYMBOL;SPEAKER WITH CANCELLATION STROKE;a;aWITH ONE SOUND WAVE",
   "bTHREE SOUND WAVES;BATTERY;ELECTRIC PLUG;LEFT-POINTING MAGNIFYING GLASS",
   "RIGHT-POINTING MAGNIFYING GLASS;LOCK WITH INK PEN;CLOSED LOCK WITH KEY;KEY;LOCK;OPEN LOCK;BELL",
   "aWITH CANCELLATION STROKE;BOOKMARK;LINK SYMBOL;RADIO BUTTON;BACK WITH LEFTWARDS ARROW ABOVE",
   "END WITH LEFTWARDS ARROW ABOVE;ON WITH EXCLAMATION MARK WITH LEFT RIGHT ARROW ABOVE",
   "SOON WITH RIGHTWARDS ARROW ABOVE;TOP WITH UPWARDS ARROW ABOVE;NO ONE UNDER EIGHTEEN SYMBOL",
   "KEYCAP TEN;INPUT SYMBOL FOR LATIN CAPITAL LETTERS;dSMALL LETTERS;cNUMBERS;cSYMBOLS",
   "cLATIN LETTERS;FIRE;ELECTRIC TORCH;WRENCH;HAMMER;NUT AND BOLT;HOCHO;PISTOL;MICROSCOPE",
   "TELESCOPE;CRYSTAL BALL;SIX POINTED STAR WITH MIDDLE DOT;JAPANESE SYMBOL FOR BEGINNER",
   "TRIDENT EMBLEM;BLACK SQUARE BUTTON;WHITE SQUARE BUTTON;LARGE RED CIRCLE;aBLUE CIRCLE",
   "aORANGE DIAMOND;aBLUE DIAMOND;SMALL ORANGE DIAMOND;aBLUE DIAMOND;UP-POINTING RED TRIANGLE",
   "DOWN-POINTING RED TRIANGLE;UP-POINTING SMALL RED TRIANGLE;DOWN-POINTING SMALL RED TRIANGLE",
   "LOWER RIGHT SHADOWED WHITE CIRCLE;UPPER RIGHT SHADOWED WHITE CIRCLE;CIRCLED CROSS POMMEE",
   "CROSS POMMEE WITH HALF-CIRCLE BELOW;b;NOTCHED LEFT SEMICIRCLE WITH THREE DOTS",
   "aRIGHT SEMICIRCLE WITH THREE DOTS;SYMBOL FOR MARKS CHAPTER;WHITE LATIN CROSS;HEAVY LATIN CROSS",
   "CELTIC CROSS;OM SYMBOL;DOVE OF PEACE;KAABA;MOSQUE;SYNAGOGUE;MENORAH WITH NINE BRANCHES",
   "BOWL OF HYGIEIA;CLOCK FACE ONE OCLOCK;bTWO OCLOCK;bTHREE OCLOCK;bFOUR OCLOCK;bFIVE OCLOCK",
   "bSIX OCLOCK;bSEVEN OCLOCK;bEIGHT OCLOCK;bNINE OCLOCK;bTEN OCLOCK;bELEVEN OCLOCK;bTWELVE OCLOCK",
   "bONE-THIRTY;bTWO-THIRTY;bTHREE-THIRTY;bFOUR-THIRTY;bFIVE-THIRTY;bSIX-THIRTY;bSEVEN-THIRTY",
   "bEIGHT-THIRTY;bNINE-THIRTY;bTEN-THIRTY;bELEVEN-THIRTY;bTWELVE-THIRTY;RIGHT SPEAKER",
   "bWITH ONE SOUND WAVE;cTHREE SOUND WAVES;BULLHORN;aWITH SOUND WAVES;RINGING BELL;BOOK;CANDLE",
   "MANTELPIECE CLOCK;BLACK SKULL AND CROSSBONES;NO PIRACY;HOLE;MAN IN BUSINESS SUIT LEVITATING",
   "SLEUTH OR SPY;DARK SUNGLASSES;SPIDER;aWEB;JOYSTICK;MAN DANCING;LEFT HAND TELEPHONE RECEIVER",
   "TELEPHONE RECEIVER WITH PAGE;RIGHT HAND TELEPHONE RECEIVER;WHITE TOUCHTONE TELEPHONE",
   "BLACK TOUCHTONE TELEPHONE;TELEPHONE ON TOP OF MODEM;CLAMSHELL MOBILE PHONE;BACK OF ENVELOPE",
   "STAMPED ENVELOPE;ENVELOPE WITH LIGHTNING;FLYING ENVELOPE;PEN OVER STAMPED ENVELOPE",
   "LINKED PAPERCLIPS;BLACK PUSHPIN;LOWER LEFT PENCIL;bBALLPOINT PEN;bFOUNTAIN PEN;bPAINTBRUSH",
   "bCRAYON;LEFT WRITING HAND;TURNED OK HAND SIGN;RAISED HAND WITH FINGERS SPLAYED",
   "REVERSED RAISED HAND WITH FINGERS SPLAYED;aTHUMBS UP SIGN;bDOWN SIGN;aVICTORY HAND",
   "aHAND WITH MIDDLE FINGER EXTENDED;RAISED HAND WITH PART BETWEEN MIDDLE AND RING FINGERS",
   "WHITE DOWN POINTING LEFT HAND INDEX;SIDEWAYS WHITE LEFT POINTING INDEX;bRIGHT POINTING INDEX",
   "aBLACK LEFT POINTING INDEX;bRIGHT POINTING INDEX;BLACK LEFT POINTING BACKHAND INDEX",
   "aRIGHT POINTING BACKHAND INDEX;SIDEWAYS WHITE UP POINTING INDEX;bDOWN POINTING INDEX",
   "aBLACK UP POINTING INDEX;bDOWN POINTING INDEX;BLACK UP POINTING BACKHAND INDEX",
   "aDOWN POINTING BACKHAND INDEX;aHEART;DESKTOP COMPUTER;KEYBOARD AND MOUSE",
   "THREE NETWORKED COMPUTERS;PRINTER;POCKET CALCULATOR;BLACK HARD SHELL FLOPPY DISK",
   "WHITE HARD SHELL FLOPPY DISK;SOFT SHELL FLOPPY DISK;TAPE CARTRIDGE;WIRED KEYBOARD",
   "ONE BUTTON MOUSE;TWO BUTTON MOUSE;THREE BUTTON MOUSE;TRACKBALL;OLD PERSONAL COMPUTER;HARD DISK",
   "SCREEN;PRINTER ICON;FAX ICON;OPTICAL DISC ICON;DOCUMENT WITH TEXT;cAND PICTURE;bPICTURE",
   "FRAME WITH PICTURE;bTILES;bAN X;BLACK FOLDER;FOLDER;OPEN FOLDER;CARD INDEX DIVIDERS;aFILE BOX",
   "FILE CABINET;EMPTY NOTE;bPAGE;bPAD;NOTE;aPAGE;aPAD;EMPTY DOCUMENT;aPAGE;aPAGES;DOCUMENT;PAGE",
   "PAGES;WASTEBASKET;SPIRAL NOTE PAD;aCALENDAR PAD;DESKTOP WINDOW;MINIMIZE;MAXIMIZE;OVERLAP",
   "CLOCKWISE RIGHT AND LEFT SEMICIRCLE ARROWS;CANCELLATION X;INCREASE FONT SIZE SYMBOL",
   "DECREASE FONT SIZE SYMBOL;COMPRESSION;OLD KEY;ROLLED-UP NEWSPAPER;PAGE WITH CIRCLED TEXT",
   "STOCK CHART;DAGGER KNIFE;LIPS;SPEAKING HEAD IN SILHOUETTE;THREE RAYS ABOVE;bBELOW;bLEFT;bRIGHT",
   "LEFT SPEECH BUBBLE;RIGHT SPEECH BUBBLE;TWO SPEECH BUBBLES;THREE SPEECH BUBBLES",
   "LEFT THOUGHT BUBBLE;RIGHT THOUGHT BUBBLE;LEFT ANGER BUBBLE;RIGHT ANGER BUBBLE;MOOD BUBBLE",
   "LIGHTNING MOOD BUBBLE;b;BALLOT BOX WITH BALLOT;aSCRIPT X;aBOX WITH SCRIPT X;aBOLD SCRIPT X",
   "aBOX WITH BOLD SCRIPT X;LIGHT CHECK MARK;BALLOT BOX WITH BOLD CHECK;WORLD MAP;MOUNT FUJI",
   "TOKYO TOWER;STATUE OF LIBERTY;SILHOUETTE OF JAPAN;MOYAI;GRINNING FACE;bWITH SMILING EYES",
   "FACE WITH TEARS OF JOY;SMILING FACE WITH OPEN MOUTH;eAND SMILING EYES;fCOLD SWEAT",
   "fTIGHTLY-CLOSED EYES;cHALO;cHORNS;WINKING FACE;SMILING FACE WITH SMILING EYES",
   "FACE SAVOURING DELICIOUS FOOD;RELIEVED FACE;SMILING FACE WITH HEART-SHAPED EYES;cSUNGLASSES",
   "SMIRKING FACE;NEUTRAL FACE;EXPRESSIONLESS FACE;UNAMUSED FACE;FACE WITH COLD SWEAT;PENSIVE FACE",
   "CONFUSED FACE;CONFOUNDED FACE;KISSING FACE;FACE THROWING A KISS;KISSING FACE WITH SMILING EYES",
   "cCLOSED EYES;FACE WITH STUCK-OUT TONGUE;dAND WINKING EYE;eTIGHTLY-CLOSED EYES",
   "DISAPPOINTED FACE;WORRIED FACE;ANGRY FACE;POUTING FACE;CRYING FACE;PERSEVERING FACE",
   "FACE WITH LOOK OF TRIUMPH;DISAPPOINTED BUT RELIEVED FACE;FROWNING FACE WITH OPEN MOUTH",
   "ANGUISHED FACE;FEARFUL FACE;WEARY FACE;SLEEPY FACE;TIRED FACE;GRIMACING FACE",
   "LOUDLY CRYING FACE;FACE WITH OPEN MOUTH;HUSHED FACE;FACE WITH OPEN MOUTH AND COLD SWEAT",
   "aSCREAMING IN FEAR;ASTONISHED FACE;FLUSHED FACE;SLEEPING FACE;DIZZY FACE;FACE WITHOUT MOUTH",
   "aWITH MEDICAL MASK;GRINNING CAT FACE WITH SMILING EYES;CAT FACE WITH TEARS OF JOY",
   "SMILING CAT FACE WITH OPEN MOUTH;dHEART-SHAPED EYES;CAT FACE WITH WRY SMILE",
   "KISSING CAT FACE WITH CLOSED EYES;POUTING CAT FACE;CRYING CAT FACE;WEARY CAT FACE",
   "SLIGHTLY FROWNING FACE;aSMILING FACE;UPSIDE-DOWN FACE;FACE WITH ROLLING EYES;bNO GOOD GESTURE",
   "bOK GESTURE;PERSON BOWING DEEPLY;SEE-NO-EVIL MONKEY;HEAR-NO-EVIL MONKEY;SPEAK-NO-EVIL MONKEY",
   "HAPPY PERSON RAISING ONE HAND;PERSON RAISING BOTH HANDS IN CELEBRATION;aFROWNING",
   "aWITH POUTING FACE;bFOLDED HANDS;NORTH WEST POINTING LEAF;SOUTH WEST POINTING LEAF",
   "NORTH EAST POINTING LEAF;SOUTH EAST POINTING LEAF;TURNED NORTH WEST POINTING LEAF",
   "aSOUTH WEST POINTING LEAF;aNORTH EAST POINTING LEAF;aSOUTH EAST POINTING LEAF",
   "NORTH WEST POINTING VINE LEAF;SOUTH WEST POINTING VINE LEAF;NORTH EAST POINTING VINE LEAF",
   "SOUTH EAST POINTING VINE LEAF;HEAVY NORTH WEST POINTING VINE LEAF",
   "aSOUTH WEST POINTING VINE LEAF;aNORTH EAST POINTING VINE LEAF;aSOUTH EAST POINTING VINE LEAF",
   "NORTH WEST POINTING BUD;SOUTH WEST POINTING BUD;NORTH EAST POINTING BUD",
   "SOUTH EAST POINTING BUD;HEAVY NORTH WEST POINTING BUD;aSOUTH WEST POINTING BUD",
   "aNORTH EAST POINTING BUD;aSOUTH EAST POINTING BUD;HOLLOW QUILT SQUARE ORNAMENT",
   "dIN BLACK SQUARE;SOLID QUILT SQUARE ORNAMENT;dIN BLACK SQUARE;LEFTWARDS ROCKET;UPWARDS ROCKET",
   "RIGHTWARDS ROCKET;DOWNWARDS ROCKET;SCRIPT LIGATURE ET ORNAMENT",
   "HEAVY SCRIPT LIGATURE ET ORNAMENT;LIGATURE OPEN ET ORNAMENT;HEAVY LIGATURE OPEN ET ORNAMENT",
   "aAMPERSAND ORNAMENT;SWASH AMPERSAND ORNAMENT",
   "SANS-SERIF HEAVY DOUBLE TURNED COMMA QUOTATION MARK ORNAMENT;cCOMMA QUOTATION MARK ORNAMENT",
   "bLOW DOUBLE COMMA QUOTATION MARK ORNAMENT;HEAVY INTERROBANG ORNAMENT",
   "SANS-SERIF INTERROBANG ORNAMENT;HEAVY SANS-SERIF INTERROBANG ORNAMENT;VERY HEAVY SOLIDUS",
   "bREVERSE SOLIDUS;CHECKER BOARD;REVERSE CHECKER BOARD;ROCKET;HELICOPTER;STEAM LOCOMOTIVE",
   "RAILWAY CAR;HIGH-SPEED TRAIN;bWITH BULLET NOSE;TRAIN;METRO;LIGHT RAIL;STATION;TRAM;aCAR;BUS",
   "ONCOMING BUS;TROLLEYBUS;BUS STOP;MINIBUS;AMBULANCE;FIRE ENGINE;POLICE CAR;ONCOMING POLICE CAR",
   "TAXI;ONCOMING TAXI;AUTOMOBILE;ONCOMING AUTOMOBILE;RECREATIONAL VEHICLE;DELIVERY TRUCK",
   "ARTICULATED LORRY;TRACTOR;MONORAIL;MOUNTAIN RAILWAY;SUSPENSION RAILWAY;MOUNTAIN CABLEWAY",
   "AERIAL TRAMWAY;SHIP;ROWBOAT;SPEEDBOAT;HORIZONTAL TRAFFIC LIGHT;VERTICAL TRAFFIC LIGHT",
   "CONSTRUCTION SIGN;POLICE CARS REVOLVING LIGHT;TRIANGULAR FLAG ON POST;DOOR;NO ENTRY SIGN",
   "SMOKING SYMBOL;NO SMOKING SYMBOL;PUT LITTER IN ITS PLACE SYMBOL;DO NOT LITTER SYMBOL",
   "POTABLE WATER SYMBOL;NON-POTABLE WATER SYMBOL;BICYCLE;NO BICYCLES;BICYCLIST;MOUNTAIN BICYCLIST",
   "PEDESTRIAN;NO PEDESTRIANS;CHILDREN CROSSING;MENS SYMBOL;WOMENS SYMBOL;RESTROOM;BABY SYMBOL",
   "TOILET;WATER CLOSET;SHOWER;BATH;BATHTUB;PASSPORT CONTROL;CUSTOMS;BAGGAGE CLAIM;LEFT LUGGAGE",
   "TRIANGLE WITH ROUNDED CORNERS;PROHIBITED SIGN;CIRCLED INFORMATION SOURCE;BOYS SYMBOL",
   "GIRLS SYMBOL;COUCH AND LAMP;SLEEPING ACCOMMODATION;SHOPPING BAGS;BELLHOP BELL;BED",
   "PLACE OF WORSHIP;OCTAGONAL SIGN;SHOPPING TROLLEY;STUPA;PAGODA;HINDU TEMPLE;HUT;ELEVATOR",
   "1f6dd:PLAYGROUND SLIDE;WHEEL;RING BUOY;HAMMER AND WRENCH;SHIELD;OIL DRUM;MOTORWAY",
   "RAILWAY TRACK;MOTOR BOAT;UP-POINTING MILITARY AIRPLANE;aAIRPLANE;aSMALL AIRPLANE",
   "SMALL AIRPLANE;NORTHEAST-POINTING AIRPLANE;AIRPLANE DEPARTURE;aARRIVING;1f6f0:SATELLITE",
   "ONCOMING FIRE ENGINE;DIESEL LOCOMOTIVE;PASSENGER SHIP;SCOOTER;MOTOR SCOOTER;CANOE;SLED",
   "FLYING SAUCER;SKATEBOARD;AUTO RICKSHAW;PICKUP TRUCK;ROLLER SKATE",
   "1f700:ALCHEMICAL SYMBOL FOR QUINTESSENCE;cAIR;cFIRE;cEARTH;cWATER;cAQUAFORTIS;cAQUA REGIA",
   "dREGIA-2;dVITAE;dVITAE-2;cVINEGAR;cVINEGAR-2;cVINEGAR-3;cSULFUR;cPHILOSOPHERS SULFUR",
   "cBLACK SULFUR;cMERCURY SUBLIMATE;dSUBLIMATE-2;dSUBLIMATE-3;cCINNABAR;cSALT;cNITRE;cVITRIOL",
   "cVITRIOL-2;cROCK SALT;dSALT-2;cGOLD;cSILVER;cIRON ORE;dORE-2;cCROCUS OF IRON;cREGULUS OF IRON",
   "cCOPPER ORE;cIRON-COPPER ORE;cSUBLIMATE OF COPPER;cCROCUS OF COPPER;eCOPPER-2",
   "cCOPPER ANTIMONIATE;cSALT OF COPPER ANTIMONIATE;cSUBLIMATE OF SALT OF COPPER;cVERDIGRIS",
   "cTIN ORE;cLEAD ORE;cANTIMONY ORE;cSUBLIMATE OF ANTIMONY;cSALT OF ANTIMONY",
   "cSUBLIMATE OF SALT OF ANTIMONY;cVINEGAR OF ANTIMONY;cREGULUS OF ANTIMONY;eANTIMONY-2;d",
   "cREGULUS-2;cREGULUS-3;cREGULUS-4;cALKALI;cALKALI-2;cMARCASITE;cSAL-AMMONIAC;cARSENIC;cREALGAR",
   "cREALGAR-2;cAURIPIGMENT;cBISMUTH ORE;cTARTAR;cTARTAR-2;cQUICK LIME;cBORAX;cBORAX-2;cBORAX-3",
   "cALUM;cOIL;cSPIRIT;cTINCTURE;cGUM;cWAX;cPOWDER;cCALX;cTUTTY;cCAPUT MORTUUM;cSCEPTER OF JOVE",
   "cCADUCEUS;cTRIDENT;cSTARRED TRIDENT;cLODESTONE;cSOAP;cURINE;cHORSE DUNG;cASHES;cPOT ASHES",
   "cBRICK;cPOWDERED BRICK;cAMALGAM;cSTRATUM SUPER STRATUM;eSTRATUM-2;cSUBLIMATION;cPRECIPITATE",
   "cDISTILL;cDISSOLVE;cDISSOLVE-2;cPURIFY;cPUTREFACTION;cCRUCIBLE;cCRUCIBLE-2;cCRUCIBLE-3",
   "cCRUCIBLE-4;cCRUCIBLE-5;cALEMBIC;cBATH OF MARY;eVAPOURS;cRETORT;cHOUR;cNIGHT;cDAY-NIGHT;cMONTH",
   "cHALF DRAM;dOUNCE;1f780:BLACK LEFT-POINTING ISOSCELES RIGHT TRIANGLE",
   "aUP-POINTING ISOSCELES RIGHT TRIANGLE;aRIGHT-POINTING ISOSCELES RIGHT TRIANGLE",
   "aDOWN-POINTING ISOSCELES RIGHT TRIANGLE;aSLIGHTLY SMALL CIRCLE;MEDIUM BOLD WHITE CIRCLE",
   "BOLD WHITE CIRCLE;HEAVY WHITE CIRCLE;VERY HEAVY WHITE CIRCLE;EXTREMELY HEAVY WHITE CIRCLE",
   "WHITE CIRCLE CONTAINING BLACK SMALL CIRCLE;ROUND TARGET;BLACK TINY SQUARE",
   "aSLIGHTLY SMALL SQUARE;LIGHT WHITE SQUARE;MEDIUM WHITE SQUARE;BOLD WHITE SQUARE",
   "HEAVY WHITE SQUARE;VERY HEAVY WHITE SQUARE;EXTREMELY HEAVY WHITE SQUARE",
   "WHITE SQUARE CONTAINING BLACK VERY SMALL SQUARE;dMEDIUM SQUARE;SQUARE TARGET",
   "BLACK TINY DIAMOND;aVERY SMALL DIAMOND;aMEDIUM SMALL DIAMOND",
   "WHITE DIAMOND CONTAINING BLACK VERY SMALL DIAMOND;dMEDIUM DIAMOND;DIAMOND TARGET",
   "BLACK TINY LOZENGE;aVERY SMALL LOZENGE;aMEDIUM SMALL LOZENGE",
   "WHITE LOZENGE CONTAINING BLACK SMALL LOZENGE;THIN GREEK CROSS;LIGHT GREEK CROSS",
   "MEDIUM GREEK CROSS;BOLD GREEK CROSS;VERY BOLD GREEK CROSS;aHEAVY GREEK CROSS",
   "EXTREMELY HEAVY GREEK CROSS;THIN SALTIRE;LIGHT SALTIRE;MEDIUM SALTIRE;BOLD SALTIRE",
   "HEAVY SALTIRE;VERY HEAVY SALTIRE;EXTREMELY HEAVY SALTIRE;LIGHT FIVE SPOKED ASTERISK",
   "MEDIUM FIVE SPOKED ASTERISK;BOLD FIVE SPOKED ASTERISK;HEAVY FIVE SPOKED ASTERISK",
   "VERY HEAVY FIVE SPOKED ASTERISK;EXTREMELY HEAVY FIVE SPOKED ASTERISK;LIGHT SIX SPOKED ASTERISK",
   "MEDIUM SIX SPOKED ASTERISK;BOLD SIX SPOKED ASTERISK;HEAVY SIX SPOKED ASTERISK",
   "VERY HEAVY SIX SPOKED ASTERISK;EXTREMELY HEAVY SIX SPOKED ASTERISK;LIGHT EIGHT SPOKED ASTERISK",
   "MEDIUM EIGHT SPOKED ASTERISK;BOLD EIGHT SPOKED ASTERISK;HEAVY EIGHT SPOKED ASTERISK",
   "VERY HEAVY EIGHT SPOKED ASTERISK;LIGHT THREE POINTED BLACK STAR",
   "MEDIUM THREE POINTED BLACK STAR;THREE POINTED BLACK STAR;MEDIUM THREE POINTED PINWHEEL STAR",
   "LIGHT FOUR POINTED BLACK STAR;MEDIUM FOUR POINTED BLACK STAR;FOUR POINTED BLACK STAR",
   "MEDIUM FOUR POINTED PINWHEEL STAR;REVERSE LIGHT FOUR POINTED PINWHEEL STAR",
   "LIGHT FIVE POINTED BLACK STAR;HEAVY FIVE POINTED BLACK STAR;MEDIUM SIX POINTED BLACK STAR",
   "HEAVY SIX POINTED BLACK STAR;SIX POINTED PINWHEEL STAR;MEDIUM EIGHT POINTED BLACK STAR",
   "HEAVY EIGHT POINTED BLACK STAR;VERY HEAVY EIGHT POINTED BLACK STAR",
   "HEAVY EIGHT POINTED PINWHEEL STAR;LIGHT TWELVE POINTED BLACK STAR",
   "HEAVY TWELVE POINTED BLACK STAR;cPINWHEEL STAR;CIRCLED TRIANGLE;NEGATIVE CIRCLED TRIANGLE",
   "CIRCLED SQUARE;NEGATIVE CIRCLED SQUARE;1f7e0:LARGE ORANGE CIRCLE;aYELLOW CIRCLE;aGREEN CIRCLE",
   "aPURPLE CIRCLE;aBROWN CIRCLE;aRED SQUARE;aBLUE SQUARE;aORANGE SQUARE;aYELLOW SQUARE",
   "aGREEN SQUARE;aPURPLE SQUARE;aBROWN SQUARE;1f7f0:HEAVY EQUALS SIGN",
   "1f800:LEFTWARDS ARROW WITH SMALL TRIANGLE ARROWHEAD",
   "UPWARDS ARROW WITH SMALL TRIANGLE ARROWHEAD;RIGHTWARDS ARROW WITH SMALL TRIANGLE ARROWHEAD",
   "DOWNWARDS ARROW WITH SMALL TRIANGLE ARROWHEAD;LEFTWARDS ARROW WITH MEDIUM TRIANGLE ARROWHEAD",
   "UPWARDS ARROW WITH MEDIUM TRIANGLE ARROWHEAD;RIGHTWARDS ARROW WITH MEDIUM TRIANGLE ARROWHEAD",
   "DOWNWARDS ARROW WITH MEDIUM TRIANGLE ARROWHEAD;LEFTWARDS ARROW WITH LARGE TRIANGLE ARROWHEAD",
   "UPWARDS ARROW WITH LARGE TRIANGLE ARROWHEAD;RIGHTWARDS ARROW WITH LARGE TRIANGLE ARROWHEAD",
   "DOWNWARDS ARROW WITH LARGE TRIANGLE ARROWHEAD",
   "1f810:LEFTWARDS ARROW WITH SMALL EQUILATERAL ARROWHEAD",
   "UPWARDS ARROW WITH SMALL EQUILATERAL ARROWHEAD",
   "RIGHTWARDS ARROW WITH SMALL EQUILATERAL ARROWHEAD",
   "DOWNWARDS ARROW WITH SMALL EQUILATERAL ARROWHEAD;LEFTWARDS ARROW WITH EQUILATERAL ARROWHEAD",
   "UPWARDS ARROW WITH EQUILATERAL ARROWHEAD;RIGHTWARDS ARROW WITH EQUILATERAL ARROWHEAD",
   "DOWNWARDS ARROW WITH EQUILATERAL ARROWHEAD;HEAVY LEFTWARDS ARROW WITH EQUILATERAL ARROWHEAD",
   "aUPWARDS ARROW WITH EQUILATERAL ARROWHEAD;aRIGHTWARDS ARROW WITH EQUILATERAL ARROWHEAD",
   "aDOWNWARDS ARROW WITH EQUILATERAL ARROWHEAD;aLEFTWARDS ARROW WITH LARGE EQUILATERAL ARROWHEAD",
   "aUPWARDS ARROW WITH LARGE EQUILATERAL ARROWHEAD",
   "aRIGHTWARDS ARROW WITH LARGE EQUILATERAL ARROWHEAD",
   "aDOWNWARDS ARROW WITH LARGE EQUILATERAL ARROWHEAD",
   "LEFTWARDS TRIANGLE-HEADED ARROW WITH NARROW SHAFT",
   "UPWARDS TRIANGLE-HEADED ARROW WITH NARROW SHAFT",
   "RIGHTWARDS TRIANGLE-HEADED ARROW WITH NARROW SHAFT",
   "DOWNWARDS TRIANGLE-HEADED ARROW WITH NARROW SHAFT",
   "LEFTWARDS TRIANGLE-HEADED ARROW WITH MEDIUM SHAFT",
   "UPWARDS TRIANGLE-HEADED ARROW WITH MEDIUM SHAFT",
   "RIGHTWARDS TRIANGLE-HEADED ARROW WITH MEDIUM SHAFT",
   "DOWNWARDS TRIANGLE-HEADED ARROW WITH MEDIUM SHAFT",
   "LEFTWARDS TRIANGLE-HEADED ARROW WITH BOLD SHAFT;UPWARDS TRIANGLE-HEADED ARROW WITH BOLD SHAFT",
   "RIGHTWARDS TRIANGLE-HEADED ARROW WITH BOLD SHAFT",
   "DOWNWARDS TRIANGLE-HEADED ARROW WITH BOLD SHAFT",
   "LEFTWARDS TRIANGLE-HEADED ARROW WITH HEAVY SHAFT",
   "UPWARDS TRIANGLE-HEADED ARROW WITH HEAVY SHAFT",
   "RIGHTWARDS TRIANGLE-HEADED ARROW WITH HEAVY SHAFT",
   "DOWNWARDS TRIANGLE-HEADED ARROW WITH HEAVY SHAFT",
   "LEFTWARDS TRIANGLE-HEADED ARROW WITH VERY HEAVY SHAFT",
   "UPWARDS TRIANGLE-HEADED ARROW WITH VERY HEAVY SHAFT",
   "RIGHTWARDS TRIANGLE-HEADED ARROW WITH VERY HEAVY SHAFT",
   "DOWNWARDS TRIANGLE-HEADED ARROW WITH VERY HEAVY SHAFT;LEFTWARDS FINGER-POST ARROW",
   "UPWARDS FINGER-POST ARROW;RIGHTWARDS FINGER-POST ARROW;DOWNWARDS FINGER-POST ARROW",
   "LEFTWARDS SQUARED ARROW;UPWARDS SQUARED ARROW;RIGHTWARDS SQUARED ARROW;DOWNWARDS SQUARED ARROW",
   "LEFTWARDS COMPRESSED ARROW;UPWARDS COMPRESSED ARROW;RIGHTWARDS COMPRESSED ARROW",
   "DOWNWARDS COMPRESSED ARROW;LEFTWARDS HEAVY COMPRESSED ARROW;UPWARDS HEAVY COMPRESSED ARROW",
   "RIGHTWARDS HEAVY COMPRESSED ARROW;DOWNWARDS HEAVY COMPRESSED ARROW;LEFTWARDS HEAVY ARROW",
   "UPWARDS HEAVY ARROW;RIGHTWARDS HEAVY ARROW;DOWNWARDS HEAVY ARROW",
   "1f850:LEFTWARDS SANS-SERIF ARROW;UPWARDS SANS-SERIF ARROW;RIGHTWARDS SANS-SERIF ARROW",
   "DOWNWARDS SANS-SERIF ARROW;NORTH WEST SANS-SERIF ARROW;aEAST SANS-SERIF ARROW",
   "SOUTH EAST SANS-SERIF ARROW;aWEST SANS-SERIF ARROW;LEFT RIGHT SANS-SERIF ARROW",
   "UP DOWN SANS-SERIF ARROW;1f860:WIDE-HEADED LEFTWARDS LIGHT BARB ARROW",
   "aUPWARDS LIGHT BARB ARROW;aRIGHTWARDS LIGHT BARB ARROW;aDOWNWARDS LIGHT BARB ARROW",
   "aNORTH WEST LIGHT BARB ARROW;bEAST LIGHT BARB ARROW;aSOUTH EAST LIGHT BARB ARROW",
   "bWEST LIGHT BARB ARROW;aLEFTWARDS BARB ARROW;aUPWARDS BARB ARROW;aRIGHTWARDS BARB ARROW",
   "aDOWNWARDS BARB ARROW;aNORTH WEST BARB ARROW;bEAST BARB ARROW;aSOUTH EAST BARB ARROW",
   "bWEST BARB ARROW;aLEFTWARDS MEDIUM BARB ARROW;aUPWARDS MEDIUM BARB ARROW",
   "aRIGHTWARDS MEDIUM BARB ARROW;aDOWNWARDS MEDIUM BARB ARROW;aNORTH WEST MEDIUM BARB ARROW",
   "bEAST MEDIUM BARB ARROW;aSOUTH EAST MEDIUM BARB ARROW;bWEST MEDIUM BARB ARROW",
   "aLEFTWARDS HEAVY BARB ARROW;aUPWARDS HEAVY BARB ARROW;aRIGHTWARDS HEAVY BARB ARROW",
   "aDOWNWARDS HEAVY BARB ARROW;aNORTH WEST HEAVY BARB ARROW;bEAST HEAVY BARB ARROW",
   "aSOUTH EAST HEAVY BARB ARROW;bWEST HEAVY BARB ARROW;aLEFTWARDS VERY HEAVY BARB ARROW",
   "aUPWARDS VERY HEAVY BARB ARROW;aRIGHTWARDS VERY HEAVY BARB ARROW",
   "aDOWNWARDS VERY HEAVY BARB ARROW;aNORTH WEST VERY HEAVY BARB ARROW;bEAST VERY HEAVY BARB ARROW",
   "aSOUTH EAST VERY HEAVY BARB ARROW;bWEST VERY HEAVY BARB ARROW",
   "1f890:LEFTWARDS TRIANGLE ARROWHEAD;UPWARDS TRIANGLE ARROWHEAD;RIGHTWARDS TRIANGLE ARROWHEAD",
   "DOWNWARDS TRIANGLE ARROWHEAD;LEFTWARDS WHITE ARROW WITHIN TRIANGLE ARROWHEAD",
   "UPWARDS WHITE ARROW WITHIN TRIANGLE ARROWHEAD;RIGHTWARDS WHITE ARROW WITHIN TRIANGLE ARROWHEAD",
   "DOWNWARDS WHITE ARROW WITHIN TRIANGLE ARROWHEAD;LEFTWARDS ARROW WITH NOTCHED TAIL",
   "UPWARDS ARROW WITH NOTCHED TAIL;RIGHTWARDS ARROW WITH NOTCHED TAIL",
   "DOWNWARDS ARROW WITH NOTCHED TAIL;HEAVY ARROW SHAFT WIDTH ONE;dTWO THIRDS;dONE HALF;eTHIRD",
   "LEFTWARDS BOTTOM-SHADED WHITE ARROW;RIGHTWARDS BOTTOM SHADED WHITE ARROW",
   "LEFTWARDS TOP SHADED WHITE ARROW;RIGHTWARDS TOP SHADED WHITE ARROW",
   "LEFTWARDS LEFT-SHADED WHITE ARROW;RIGHTWARDS RIGHT-SHADED WHITE ARROW",
   "LEFTWARDS RIGHT-SHADED WHITE ARROW;RIGHTWARDS LEFT-SHADED WHITE ARROW",
   "LEFTWARDS BACK-TILTED SHADOWED WHITE ARROW;RIGHTWARDS BACK-TILTED SHADOWED WHITE ARROW",
   "LEFTWARDS FRONT-TILTED SHADOWED WHITE ARROW;RIGHTWARDS FRONT-TILTED SHADOWED WHITE ARROW",
   "WHITE ARROW SHAFT WIDTH ONE;dTWO THIRDS;1f8b0:ARROW POINTING UPWARDS THEN NORTH WEST",
   "bRIGHTWARDS THEN CURVING SOUTH WEST;1f900:CIRCLED CROSS FORMEE WITH FOUR DOTS;dTWO DOTS;c",
   "LEFT HALF CIRCLE WITH FOUR DOTS;dTHREE DOTS;dTWO DOTS;dDOT;c;DOWNWARD FACING HOOK",
   "bNOTCHED HOOK;bHOOK WITH DOT;bNOTCHED HOOK WITH DOT;PINCHED FINGERS;WHITE HEART;BROWN HEART",
   "PINCHING HAND;ZIPPER-MOUTH FACE;MONEY-MOUTH FACE;FACE WITH THERMOMETER;NERD FACE;THINKING FACE",
   "FACE WITH HEAD-BANDAGE;ROBOT FACE;HUGGING FACE;SIGN OF THE HORNS;CALL ME HAND",
   "RAISED BACK OF HAND;LEFT-FACING FIST;RIGHT-FACING FIST;HANDSHAKE",
   "HAND WITH INDEX AND MIDDLE FINGERS CROSSED;I LOVE YOU HAND SIGN;FACE WITH COWBOY HAT",
   "CLOWN FACE;NAUSEATED FACE;ROLLING ON THE FLOOR LAUGHING;DROOLING FACE;LYING FACE;FACE PALM",
   "SNEEZING FACE;FACE WITH ONE EYEBROW RAISED;GRINNING FACE WITH STAR EYES",
   "cONE LARGE AND ONE SMALL EYE;FACE WITH FINGER COVERING CLOSED LIPS",
   "SERIOUS FACE WITH SYMBOLS COVERING MOUTH",
   "SMILING FACE WITH SMILING EYES AND HAND COVERING MOUTH;FACE WITH OPEN MOUTH VOMITING",
   "SHOCKED FACE WITH EXPLODING HEAD;PREGNANT WOMAN;BREAST-FEEDING;PALMS UP TOGETHER;SELFIE;PRINCE",
   "MAN IN TUXEDO;MOTHER CHRISTMAS;SHRUG;PERSON DOING CARTWHEEL;JUGGLING;FENCER;MODERN PENTATHLON",
   "WRESTLERS;WATER POLO;HANDBALL;DIVING MASK;WILTED FLOWER;DRUM WITH DRUMSTICKS;CLINKING GLASSES",
   "TUMBLER GLASS;SPOON;GOAL NET;RIFLE;FIRST PLACE MEDAL;SECOND PLACE MEDAL;THIRD PLACE MEDAL",
   "BOXING GLOVE;MARTIAL ARTS UNIFORM;CURLING STONE;LACROSSE STICK AND BALL;SOFTBALL;FLYING DISC",
   "CROISSANT;AVOCADO;CUCUMBER;BACON;POTATO;CARROT;BAGUETTE BREAD;GREEN SALAD;SHALLOW PAN OF FOOD",
   "STUFFED FLATBREAD;EGG;GLASS OF MILK;PEANUTS;KIWIFRUIT;PANCAKES;DUMPLING;FORTUNE COOKIE",
   "TAKEOUT BOX;CHOPSTICKS;BOWL WITH SPOON;CUP WITH STRAW;COCONUT;BROCCOLI;PIE;PRETZEL;CUT OF MEAT",
   "SANDWICH;CANNED FOOD;LEAFY GREEN;MANGO;MOON CAKE;BAGEL",
   "SMILING FACE WITH SMILING EYES AND THREE HEARTS;YAWNING FACE;SMILING FACE WITH TEAR",
   "FACE WITH PARTY HORN AND PARTY HAT;bUNEVEN EYES AND WAVY MOUTH;OVERHEATED FACE;FREEZING FACE",
   "NINJA;DISGUISED FACE;FACE HOLDING BACK TEARS;aWITH PLEADING EYES;SARI;LAB COAT;GOGGLES",
   "HIKING BOOT;FLAT SHOE;CRAB;LION FACE;SCORPION;TURKEY;UNICORN FACE;EAGLE;DUCK;BAT;SHARK;OWL",
   "FOX FACE;BUTTERFLY;DEER;GORILLA;LIZARD;RHINOCEROS;SHRIMP;SQUID;GIRAFFE FACE;ZEBRA FACE",
   "HEDGEHOG;SAUROPOD;T-REX;CRICKET;KANGAROO;LLAMA;PEACOCK;HIPPOPOTAMUS;PARROT;RACCOON;LOBSTER",
   "MOSQUITO;MICROBE;BADGER;SWAN;MAMMOTH;DODO;SLOTH;OTTER;ORANGUTAN;SKUNK;FLAMINGO;OYSTER;BEAVER",
   "BISON;SEAL;GUIDE DOG;PROBING CANE;EMOJI COMPONENT RED HAIR;bCURLY HAIR;bBALD;bWHITE HAIR;BONE",
   "LEG;FOOT;TOOTH;SUPERHERO;SUPERVILLAIN;SAFETY VEST;EAR WITH HEARING AID;MOTORIZED WHEELCHAIR",
   "MANUAL WHEELCHAIR;MECHANICAL ARM;aLEG;CHEESE WEDGE;CUPCAKE;SALT SHAKER;BEVERAGE BOX;GARLIC",
   "ONION;FALAFEL;WAFFLE;BUTTER;MATE DRINK;ICE CUBE;BUBBLE TEA;TROLL;STANDING PERSON",
   "KNEELING PERSON;DEAF PERSON;FACE WITH MONOCLE;ADULT;CHILD;OLDER ADULT;BEARDED PERSON",
   "PERSON WITH HEADSCARF;aIN STEAMY ROOM;aCLIMBING;aIN LOTUS POSITION;MAGE;FAIRY;VAMPIRE",
   "MERPERSON;ELF;GENIE;ZOMBIE;BRAIN;ORANGE HEART;BILLED CAP;SCARF;GLOVES;COAT;SOCKS",
   "RED GIFT ENVELOPE;FIRECRACKER;JIGSAW PUZZLE PIECE;TEST TUBE;PETRI DISH;DNA DOUBLE HELIX",
   "COMPASS;ABACUS;FIRE EXTINGUISHER;TOOLBOX;BRICK;MAGNET;LUGGAGE;LOTION BOTTLE;SPOOL OF THREAD",
   "BALL OF YARN;SAFETY PIN;TEDDY BEAR;BROOM;BASKET;ROLL OF PAPER;BAR OF SOAP;SPONGE;RECEIPT",
   "NAZAR AMULET;NEUTRAL CHESS KING;bQUEEN;bROOK;bBISHOP;bKNIGHT;bPAWN",
   "WHITE CHESS KNIGHT ROTATED FORTY-FIVE DEGREES;BLACK CHESS KNIGHT ROTATED FORTY-FIVE DEGREES",
   "NEUTRAL CHESS KNIGHT ROTATED FORTY-FIVE DEGREES;WHITE CHESS KING ROTATED NINETY DEGREES",
   "bQUEEN ROTATED NINETY DEGREES;bROOK ROTATED NINETY DEGREES;bBISHOP ROTATED NINETY DEGREES",
   "bKNIGHT ROTATED NINETY DEGREES;bPAWN ROTATED NINETY DEGREES",
   "BLACK CHESS KING ROTATED NINETY DEGREES;bQUEEN ROTATED NINETY DEGREES",
   "bROOK ROTATED NINETY DEGREES;bBISHOP ROTATED NINETY DEGREES;bKNIGHT ROTATED NINETY DEGREES",
   "bPAWN ROTATED NINETY DEGREES;NEUTRAL CHESS KING ROTATED NINETY DEGREES",
   "bQUEEN ROTATED NINETY DEGREES;bROOK ROTATED NINETY DEGREES;bBISHOP ROTATED NINETY DEGREES",
   "bKNIGHT ROTATED NINETY DEGREES;bPAWN ROTATED NINETY DEGREES",
   "WHITE CHESS KNIGHT ROTATED ONE HUNDRED THIRTY-FIVE DEGREES",
   "BLACK CHESS KNIGHT ROTATED ONE HUNDRED THIRTY-FIVE DEGREES",
   "NEUTRAL CHESS KNIGHT ROTATED ONE HUNDRED THIRTY-FIVE DEGREES;WHITE CHESS TURNED KING;cQUEEN",
   "cROOK;cBISHOP;cKNIGHT;cPAWN;BLACK CHESS TURNED KING;cQUEEN;cROOK;cBISHOP;cKNIGHT;cPAWN",
   "NEUTRAL CHESS TURNED KING;cQUEEN;cROOK;cBISHOP;cKNIGHT;cPAWN",
   "WHITE CHESS KNIGHT ROTATED TWO HUNDRED TWENTY-FIVE DEGREES",
   "BLACK CHESS KNIGHT ROTATED TWO HUNDRED TWENTY-FIVE DEGREES",
   "NEUTRAL CHESS KNIGHT ROTATED TWO HUNDRED TWENTY-FIVE DEGREES",
   "WHITE CHESS KING ROTATED TWO HUNDRED SEVENTY DEGREES",
   "bQUEEN ROTATED TWO HUNDRED SEVENTY DEGREES;bROOK ROTATED TWO HUNDRED SEVENTY DEGREES",
   "bBISHOP ROTATED TWO HUNDRED SEVENTY DEGREES;bKNIGHT ROTATED TWO HUNDRED SEVENTY DEGREES",
   "bPAWN ROTATED TWO HUNDRED SEVENTY DEGREES;BLACK CHESS KING ROTATED TWO HUNDRED SEVENTY DEGREES",
   "bQUEEN ROTATED TWO HUNDRED SEVENTY DEGREES;bROOK ROTATED TWO HUNDRED SEVENTY DEGREES",
   "bBISHOP ROTATED TWO HUNDRED SEVENTY DEGREES;bKNIGHT ROTATED TWO HUNDRED SEVENTY DEGREES",
   "bPAWN ROTATED TWO HUNDRED SEVENTY DEGREES",
   "NEUTRAL CHESS KING ROTATED TWO HUNDRED SEVENTY DEGREES",
   "bQUEEN ROTATED TWO HUNDRED SEVENTY DEGREES;bROOK ROTATED TWO HUNDRED SEVENTY DEGREES",
   "bBISHOP ROTATED TWO HUNDRED SEVENTY DEGREES;bKNIGHT ROTATED TWO HUNDRED SEVENTY DEGREES",
   "bPAWN ROTATED TWO HUNDRED SEVENTY DEGREES",
   "WHITE CHESS KNIGHT ROTATED THREE HUNDRED FIFTEEN DEGREES",
   "BLACK CHESS KNIGHT ROTATED THREE HUNDRED FIFTEEN DEGREES",
   "NEUTRAL CHESS KNIGHT ROTATED THREE HUNDRED FIFTEEN DEGREES;WHITE CHESS EQUIHOPPER",
   "BLACK CHESS EQUIHOPPER;NEUTRAL CHESS EQUIHOPPER;WHITE CHESS EQUIHOPPER ROTATED NINETY DEGREES",
   "BLACK CHESS EQUIHOPPER ROTATED NINETY DEGREES;NEUTRAL CHESS EQUIHOPPER ROTATED NINETY DEGREES",
   "WHITE CHESS KNIGHT-QUEEN;bKNIGHT-ROOK;bKNIGHT-BISHOP;BLACK CHESS KNIGHT-QUEEN;bKNIGHT-ROOK",
   "bKNIGHT-BISHOP;1fa60:XIANGQI RED GENERAL;bMANDARIN;bELEPHANT;bHORSE;bCHARIOT;bCANNON;bSOLDIER",
   "aBLACK GENERAL;bMANDARIN;bELEPHANT;bHORSE;bCHARIOT;bCANNON;bSOLDIER;1fa70:BALLET SHOES",
   "ONE-PIECE SWIMSUIT;BRIEFS;SHORTS;THONG SANDAL;1fa78:DROP OF BLOOD;ADHESIVE BANDAGE;STETHOSCOPE",
   "X-RAY;CRUTCH;1fa80:YO-YO;KITE;PARACHUTE;BOOMERANG;MAGIC WAND;PINATA;NESTING DOLLS",
   "1fa90:RINGED PLANET;CHAIR;RAZOR;AXE;DIYA LAMP;BANJO;MILITARY HELMET;ACCORDION;LONG DRUM;COIN",
   "CARPENTRY SAW;SCREWDRIVER;LADDER;HOOK;MIRROR;WINDOW;PLUNGER;SEWING NEEDLE;KNOT;BUCKET",
   "MOUSE TRAP;TOOTHBRUSH;HEADSTONE;PLACARD;ROCK;MIRROR BALL;IDENTIFICATION CARD;LOW BATTERY;HAMSA",
   "1fab0:FLY;WORM;BEETLE;COCKROACH;POTTED PLANT;WOOD;FEATHER;LOTUS;CORAL;EMPTY NEST",
   "NEST WITH EGGS;1fac0:ANATOMICAL HEART;LUNGS;PEOPLE HUGGING;PREGNANT MAN;aPERSON",
   "PERSON WITH CROWN;1fad0:BLUEBERRIES;BELL PEPPER;OLIVE;FLATBREAD;TAMALE;FONDUE;TEAPOT",
   "POURING LIQUID;BEANS;JAR;1fae0:MELTING FACE;SALUTING FACE",
   "FACE WITH OPEN EYES AND HAND OVER MOUTH;bPEEKING EYE;bDIAGONAL MOUTH;DOTTED LINE FACE",
   "BITING LIP;BUBBLES;1faf0:HAND WITH INDEX FINGER AND THUMB CROSSED;RIGHTWARDS HAND",
   "LEFTWARDS HAND;PALM DOWN HAND;aUP HAND;INDEX POINTING AT THE VIEWER;HEART HANDS",
   "1fb00:BLOCK SEXTANT-1;aSEXTANT-2;aSEXTANT-12;aSEXTANT-3;aSEXTANT-13;aSEXTANT-23;aSEXTANT-123",
   "aSEXTANT-4;aSEXTANT-14;aSEXTANT-24;aSEXTANT-124;aSEXTANT-34;aSEXTANT-134;aSEXTANT-234",
   "aSEXTANT-1234;aSEXTANT-5;aSEXTANT-15;aSEXTANT-25;aSEXTANT-125;aSEXTANT-35;aSEXTANT-235",
   "aSEXTANT-1235;aSEXTANT-45;aSEXTANT-145;aSEXTANT-245;aSEXTANT-1245;aSEXTANT-345;aSEXTANT-1345",
   "aSEXTANT-2345;aSEXTANT-12345;aSEXTANT-6;aSEXTANT-16;aSEXTANT-26;aSEXTANT-126;aSEXTANT-36",
   "aSEXTANT-136;aSEXTANT-236;aSEXTANT-1236;aSEXTANT-46;aSEXTANT-146;aSEXTANT-1246;aSEXTANT-346",
   "aSEXTANT-1346;aSEXTANT-2346;aSEXTANT-12346;aSEXTANT-56;aSEXTANT-156;aSEXTANT-256;aSEXTANT-1256",
   "aSEXTANT-356;aSEXTANT-1356;aSEXTANT-2356;aSEXTANT-12356;aSEXTANT-456;aSEXTANT-1456",
   "aSEXTANT-2456;aSEXTANT-12456;aSEXTANT-3456;aSEXTANT-13456;aSEXTANT-23456",
   "LOWER LEFT BLOCK DIAGONAL LOWER MIDDLE LEFT TO LOWER CENTRE;iRIGHT",
   "dUPPER MIDDLE LEFT TO LOWER CENTRE;iRIGHT;eLEFT TO LOWER CENTRE",
   "aRIGHT BLOCK DIAGONAL UPPER MIDDLE LEFT TO UPPER CENTRE;iRIGHT",
   "dLOWER MIDDLE LEFT TO UPPER CENTRE;iRIGHT;eLEFT TO UPPER CENTRE",
   "eMIDDLE LEFT TO UPPER MIDDLE RIGHT;eCENTRE TO LOWER MIDDLE RIGHT;eLEFT TO LOWER MIDDLE RIGHT",
   "eCENTRE TO UPPER MIDDLE RIGHT;eLEFT TO UPPER MIDDLE RIGHT;eCENTRE TO UPPER RIGHT",
   "aLEFT BLOCK DIAGONAL UPPER CENTRE TO UPPER MIDDLE RIGHT;eLEFT TO UPPER MIDDLE RIGHT",
   "eCENTRE TO LOWER MIDDLE RIGHT;eLEFT TO LOWER MIDDLE RIGHT;eCENTRE TO LOWER RIGHT",
   "eMIDDLE LEFT TO LOWER MIDDLE RIGHT",
   "UPPER RIGHT BLOCK DIAGONAL LOWER MIDDLE LEFT TO LOWER CENTRE;iRIGHT",
   "dUPPER MIDDLE LEFT TO LOWER CENTRE;iRIGHT;eLEFT TO LOWER CENTRE",
   "aLEFT BLOCK DIAGONAL UPPER MIDDLE LEFT TO UPPER CENTRE;iRIGHT",
   "dLOWER MIDDLE LEFT TO UPPER CENTRE;iRIGHT;eLEFT TO UPPER CENTRE",
   "eMIDDLE LEFT TO UPPER MIDDLE RIGHT;eCENTRE TO LOWER MIDDLE RIGHT;eLEFT TO LOWER MIDDLE RIGHT",
   "eCENTRE TO UPPER MIDDLE RIGHT;eLEFT TO UPPER MIDDLE RIGHT;eCENTRE TO UPPER RIGHT",
   "aRIGHT BLOCK DIAGONAL UPPER CENTRE TO UPPER MIDDLE RIGHT;eLEFT TO UPPER MIDDLE RIGHT",
   "eCENTRE TO LOWER MIDDLE RIGHT;eLEFT TO LOWER MIDDLE RIGHT;eCENTRE TO LOWER RIGHT",
   "eMIDDLE LEFT TO LOWER MIDDLE RIGHT;aAND RIGHT AND LOWER TRIANGULAR THREE QUARTERS BLOCK",
   "LEFT AND LOWER AND RIGHT TRIANGULAR THREE QUARTERS BLOCK",
   "UPPER AND LEFT AND LOWER TRIANGULAR THREE QUARTERS BLOCK",
   "LEFT AND UPPER AND RIGHT TRIANGULAR THREE QUARTERS BLOCK;aTRIANGULAR ONE QUARTER BLOCK",
   "UPPER TRIANGULAR ONE QUARTER BLOCK;RIGHT TRIANGULAR ONE QUARTER BLOCK",
   "LOWER TRIANGULAR ONE QUARTER BLOCK;VERTICAL ONE EIGHTH BLOCK-2;cBLOCK-3;cBLOCK-4;cBLOCK-5",
   "cBLOCK-6;cBLOCK-7;HORIZONTAL ONE EIGHTH BLOCK-2;cBLOCK-3;cBLOCK-4;cBLOCK-5;cBLOCK-6;cBLOCK-7",
   "LEFT AND LOWER ONE EIGHTH BLOCK;bUPPER ONE EIGHTH BLOCK;RIGHT AND UPPER ONE EIGHTH BLOCK",
   "bLOWER ONE EIGHTH BLOCK;UPPER AND LOWER ONE EIGHTH BLOCK;HORIZONTAL ONE EIGHTH BLOCK-1358",
   "UPPER ONE QUARTER BLOCK;aTHREE EIGHTHS BLOCK;aFIVE EIGHTHS BLOCK;aTHREE QUARTERS BLOCK",
   "aSEVEN EIGHTHS BLOCK;RIGHT ONE QUARTER BLOCK;aTHREE EIGHTHS BLOCK;aFIVE EIGHTHS BLOCK",
   "aTHREE QUARTERS BLOCK;aSEVEN EIGHTHS BLOCK;LEFT HALF MEDIUM SHADE;RIGHT HALF MEDIUM SHADE",
   "UPPER HALF MEDIUM SHADE;LOWER HALF MEDIUM SHADE;INVERSE MEDIUM SHADE",
   "UPPER HALF BLOCK AND LOWER HALF INVERSE MEDIUM SHADE",
   "bINVERSE MEDIUM SHADE AND LOWER HALF BLOCK",
   "1fb94:LEFT HALF INVERSE MEDIUM SHADE AND RIGHT HALF BLOCK;CHECKER BOARD FILL",
   "INVERSE CHECKER BOARD FILL;HEAVY HORIZONTAL FILL;UPPER LEFT TO LOWER RIGHT FILL",
   "aRIGHT TO LOWER LEFT FILL;aAND LOWER TRIANGULAR HALF BLOCK",
   "LEFT AND RIGHT TRIANGULAR HALF BLOCK;UPPER LEFT TRIANGULAR MEDIUM SHADE",
   "aRIGHT TRIANGULAR MEDIUM SHADE;LOWER RIGHT TRIANGULAR MEDIUM SHADE",
   "aLEFT TRIANGULAR MEDIUM SHADE;BOX DRAWINGS LIGHT DIAGONAL UPPER CENTRE TO MIDDLE LEFT;hRIGHT",
   "dMIDDLE LEFT TO LOWER CENTRE;eRIGHT TO LOWER CENTRE",
   "dUPPER CENTRE TO MIDDLE LEFT TO LOWER CENTRE;hRIGHT TO LOWER CENTRE",
   "dMIDDLE LEFT TO LOWER CENTRE TO MIDDLE RIGHT;gUPPER CENTRE TO MIDDLE RIGHT",
   "dUPPER CENTRE TO MIDDLE LEFT AND MIDDLE RIGHT TO LOWER CENTRE",
   "hRIGHT AND MIDDLE LEFT TO LOWER CENTRE;iTO LOWER CENTRE TO MIDDLE LEFT",
   "hLEFT TO LOWER CENTRE TO MIDDLE RIGHT",
   "dMIDDLE LEFT TO UPPER CENTRE TO MIDDLE RIGHT TO LOWER CENTRE",
   "eRIGHT TO UPPER CENTRE TO MIDDLE LEFT TO LOWER CENTRE;dDIAMOND",
   "cHORIZONTAL WITH VERTICAL STROKE;ARROWHEAD-SHAPED POINTER;INVERSE CHECK MARK",
   "LEFT HALF RUNNING MAN;RIGHT HALF RUNNING MAN;INVERSE DOWNWARDS ARROW WITH TIP LEFTWARDS",
   "LEFTWARDS ARROW AND UPPER AND LOWER ONE EIGHTH BLOCK",
   "RIGHTWARDS ARROW AND UPPER AND LOWER ONE EIGHTH BLOCK",
   "DOWNWARDS ARROW AND RIGHT ONE EIGHTH BLOCK;UPWARDS ARROW AND RIGHT ONE EIGHTH BLOCK",
   "LEFT HALF FOLDER;RIGHT HALF FOLDER;VOIDED GREEK CROSS;RIGHT OPEN SQUARED DOT",
   "NEGATIVE DIAGONAL CROSS;bMIDDLE RIGHT TO LOWER CENTRE;bDIAMOND",
   "WHITE HEAVY SALTIRE WITH ROUNDED CORNERS;LEFT THIRD WHITE RIGHT POINTING INDEX",
   "MIDDLE THIRD WHITE RIGHT POINTING INDEX;RIGHT THIRD WHITE RIGHT POINTING INDEX",
   "NEGATIVE SQUARED QUESTION MARK;STICK FIGURE;bWITH ARMS RAISED;bLEANING LEFT;cRIGHT;bWITH DRESS",
   "WHITE UP-POINTING CHEVRON;1fbf0:SEGMENTED DIGIT ZERO;bONE;bTWO;bTHREE;bFOUR;bFIVE;bSIX;bSEVEN",
   "bEIGHT;bNINE;e0001:LANGUAGE TAG;e0020:TAG SPACE;aEXCLAMATION MARK;aQUOTATION MARK;aNUMBER SIGN",
   "aDOLLAR SIGN;aPERCENT SIGN;aAMPERSAND;aAPOSTROPHE;aLEFT PARENTHESIS;aRIGHT PARENTHESIS",
   "aASTERISK;aPLUS SIGN;aCOMMA;aHYPHEN-MINUS;aFULL STOP;aSOLIDUS;aDIGIT ZERO;bONE;bTWO;bTHREE",
   "bFOUR;bFIVE;bSIX;bSEVEN;bEIGHT;bNINE;aCOLON;aSEMICOLON;aLESS-THAN SIGN;aEQUALS SIGN",
   "aGREATER-THAN SIGN;aQUESTION MARK;aCOMMERCIAL AT;aLATIN CAPITAL LETTER A;dB;dC;dD;dE;dF;dG;dH",
   "dI;dJ;dK;dL;dM;dN;dO;dP;dQ;dR;dS;dT;dU;dV;dW;dX;dY;dZ;aLEFT SQUARE BRACKET;aREVERSE SOLIDUS",
   "aRIGHT SQUARE BRACKET;aCIRCUMFLEX ACCENT;aLOW LINE;aGRAVE ACCENT;aLATIN SMALL LETTER A;dB;dC",
   "dD;dE;dF;dG;dH;dI;dJ;dK;dL;dM;dN;dO;dP;dQ;dR;dS;dT;dU;dV;dW;dX;dY;dZ;aLEFT CURLY BRACKET",
   "aVERTICAL LINE;aRIGHT CURLY BRACKET;aTILDE;CANCEL TAG;e0100:VARIATION SELECTOR-17;aSELECTOR-18",
   "aSELECTOR-19;aSELECTOR-20;aSELECTOR-21;aSELECTOR-22;aSELECTOR-23;aSELECTOR-24;aSELECTOR-25",
   "aSELECTOR-26;aSELECTOR-27;aSELECTOR-28;aSELECTOR-29;aSELECTOR-30;aSELECTOR-31;aSELECTOR-32",
   "aSELECTOR-33;aSELECTOR-34;aSELECTOR-35;aSELECTOR-36;aSELECTOR-37;aSELECTOR-38;aSELECTOR-39",
   "aSELECTOR-40;aSELECTOR-41;aSELECTOR-42;aSELECTOR-43;aSELECTOR-44;aSELECTOR-45;aSELECTOR-46",
   "aSELECTOR-47;aSELECTOR-48;aSELECTOR-49;aSELECTOR-50;aSELECTOR-51;aSELECTOR-52;aSELECTOR-53",
   "aSELECTOR-54;aSELECTOR-55;aSELECTOR-56;aSELECTOR-57;aSELECTOR-58;aSELECTOR-59;aSELECTOR-60",
   "aSELECTOR-61;aSELECTOR-62;aSELECTOR-63;aSELECTOR-64;aSELECTOR-65;aSELECTOR-66;aSELECTOR-67",
   "aSELECTOR-68;aSELECTOR-69;aSELECTOR-70;aSELECTOR-71;aSELECTOR-72;aSELECTOR-73;aSELECTOR-74",
   "aSELECTOR-75;aSELECTOR-76;aSELECTOR-77;aSELECTOR-78;aSELECTOR-79;aSELECTOR-80;aSELECTOR-81",
   "aSELECTOR-82;aSELECTOR-83;aSELECTOR-84;aSELECTOR-85;aSELECTOR-86;aSELECTOR-87;aSELECTOR-88",
   "aSELECTOR-89;aSELECTOR-90;aSELECTOR-91;aSELECTOR-92;aSELECTOR-93;aSELECTOR-94;aSELECTOR-95",
   "aSELECTOR-96;aSELECTOR-97;aSELECTOR-98;aSELECTOR-99;aSELECTOR-100;aSELECTOR-101;aSELECTOR-102",
   "aSELECTOR-103;aSELECTOR-104;aSELECTOR-105;aSELECTOR-106;aSELECTOR-107;aSELECTOR-108",
   "aSELECTOR-109;aSELECTOR-110;aSELECTOR-111;aSELECTOR-112;aSELECTOR-113;aSELECTOR-114",
   "aSELECTOR-115;aSELECTOR-116;aSELECTOR-117;aSELECTOR-118;aSELECTOR-119;aSELECTOR-120",
   "aSELECTOR-121;aSELECTOR-122;aSELECTOR-123;aSELECTOR-124;aSELECTOR-125;aSELECTOR-126",
   "aSELECTOR-127;aSELECTOR-128;aSELECTOR-129;aSELECTOR-130;aSELECTOR-131;aSELECTOR-132",
   "aSELECTOR-133;aSELECTOR-134;aSELECTOR-135;aSELECTOR-136;aSELECTOR-137;aSELECTOR-138",
   "aSELECTOR-139;aSELECTOR-140;aSELECTOR-141;aSELECTOR-142;aSELECTOR-143;aSELECTOR-144",
   "aSELECTOR-145;aSELECTOR-146;aSELECTOR-147;aSELECTOR-148;aSELECTOR-149;aSELECTOR-150",
   "aSELECTOR-151;aSELECTOR-152;aSELECTOR-153;aSELECTOR-154;aSELECTOR-155;aSELECTOR-156",
   "aSELECTOR-157;aSELECTOR-158;aSELECTOR-159;aSELECTOR-160;aSELECTOR-161;aSELECTOR-162",
   "aSELECTOR-163;aSELECTOR-164;aSELECTOR-165;aSELECTOR-166;aSELECTOR-167;aSELECTOR-168",
   "aSELECTOR-169;aSELECTOR-170;aSELECTOR-171;aSELECTOR-172;aSELECTOR-173;aSELECTOR-174",
   "aSELECTOR-175;aSELECTOR-176;aSELECTOR-177;aSELECTOR-178;aSELECTOR-179;aSELECTOR-180",
   "aSELECTOR-181;aSELECTOR-182;aSELECTOR-183;aSELECTOR-184;aSELECTOR-185;aSELECTOR-186",
   "aSELECTOR-187;aSELECTOR-188;aSELECTOR-189;aSELECTOR-190;aSELECTOR-191;aSELECTOR-192",
   "aSELECTOR-193;aSELECTOR-194;aSELECTOR-195;aSELECTOR-196;aSELECTOR-197;aSELECTOR-198",
   "aSELECTOR-199;aSELECTOR-200;aSELECTOR-201;aSELECTOR-202;aSELECTOR-203;aSELECTOR-204",
   "aSELECTOR-205;aSELECTOR-206;aSELECTOR-207;aSELECTOR-208;aSELECTOR-209;aSELECTOR-210",
   "aSELECTOR-211;aSELECTOR-212;aSELECTOR-213;aSELECTOR-214;aSELECTOR-215;aSELECTOR-216",
   "aSELECTOR-217;aSELECTOR-218;aSELECTOR-219;aSELECTOR-220;aSELECTOR-221;aSELECTOR-222",
   "aSELECTOR-223;aSELECTOR-224;aSELECTOR-225;aSELECTOR-226;aSELECTOR-227;aSELECTOR-228",
   "aSELECTOR-229;aSELECTOR-230;aSELECTOR-231;aSELECTOR-232;aSELECTOR-233;aSELECTOR-234",
   "aSELECTOR-235;aSELECTOR-236;aSELECTOR-237;aSELECTOR-238;aSELECTOR-239;aSELECTOR-240",
   "aSELECTOR-241;aSELECTOR-242;aSELECTOR-243;aSELECTOR-244;aSELECTOR-245;aSELECTOR-246",
   "aSELECTOR-247;aSELECTOR-248;aSELECTOR-249;aSELECTOR-250;aSELECTOR-251;aSELECTOR-252",
   "aSELECTOR-253;aSELECTOR-254;aSELECTOR-255;aSELECTOR-256"]

end Workflow.Text
