/-!
# Names of characters from E to K

The names are in order, without blanks and without hyphens inside words, and cut into lines of one length.
Each name starts with how many characters it shares with the one before it, from `a` for none to `z` for 25; a
plus sign adds 26.
-/

namespace PythonAudit

namespace Text

namespace CharacterName

/-- The names that start with E. -/
def namesE : List String :=
  ["aEAGLEcRdOFMAIZEfRICEdTHfGLOBEAMERICASlSIAAUSTRALIAkEUROPEAFRICAgROUNDdWITHHEARINGAIDcSTSYRIACCROSSbDITORIALCO",
    "RONISbGGcYPTIANHIEROGLYPHA001v2v3v4v5wAv6wAwBv7v8v9u10v1v2v3v4wAv5v6v7wAv8v9u20v1v2v3v4v5v6v7v8v9u30v1v2wAv3v4",
    "v5v6v7v8v9u40wAv1v2wAv3wAv4v5wAv6v7v8v9u50v1v2v3v4v5v6v7v8v9u60v1v2v3v4v5v6v7v8v9u70tA001w2w3w4w5w6w7xAxBw8w9v",
    "10w1w2w3w4w5w6w7w8w9v20w1w2w3w4w5w6w7w8w9v30w1w2sB001v2v3v4v5wAv6v7v8v9tEGINENCLOSURExSEGMENTxWALLEDENCLOSUREs",
    "C001v2wAwBwCv3v4v5v6v7v8v9u10wAv1v2v3v4v5v6v7v8v9u20v1v2v3v4sD001v2v3v4v5v6v7v8wAv9u10v1v2v3v4v5v6v7v8v9u20v1v",
    "2v3v4v5v6v7wAv8v9u30v1wAv2v3v4wAv5v6v7v8v9u40v1v2v3v4v5v6wAv7v8wAv9u50wAwBwCwDwEwFwGwHwIv1v2wAv3v4wAv5v6v7v8v9",
    "u60v1v2v3v4v5v6v7wAwBwCwDwEwFwGwHsE001v2v3v4v5v6v7v8wAv9wAu10v1v2v3v4v5v6wAv7wAv8v9u20wAv1v2v3v4v5v6v7v8wAv9u3",
    "0v1v2v3v4wAv6v7v8tNDENCLOSUREvSEGMENTvWALLEDENCLOSUREsF001wAv2v3v4v5v6v7v8v9u10v1v2v3wAv4v5v6v7v8v9u20v1wAv2v3",
    "v4v5v6v7v8v9u30v1wAv2v3v4v5v6v7wAv8wAv9u40v1v2v3v4v5wAv6wAv7wAv8v9u50v1wAwBwCv2v3tULLBLANKsG001v2v3v4v5v6wAv7w",
    "AwBv8v9u10v1wAv2v3v4v5v6v7v8v9u20wAv1v2v3v4v5v6wAv7v8v9u30v1v2v3v4v5v6wAv7wAv8v9u40v1v2v3wAv4v5wAv6v7v8v9u50v1",
    "v2v3v4sH001v2v3v4v5v6wAv7v8tALFBLANKwLOSTSIGNtORIZONTALJOINERsI001v2v3v4v5wAv6v7v8v9wAu10wAv1wAv2v3v4v5tNSERTA",
    "TBOTTOM+gEND+gSTART+aMIDDLE+aTOP+dEND+dSTARTsK001v2v3v4v5v6v7v8sL001v2wAv3v4v5v6wAv7v8tOSTSIGNsM001wAwBv2v3wAv",
    "4v5v6v7v8v9u10wAv1v2wAwBwCwDwEwFwGwHv3v4v5wAv6wAv7wAv8v9u20v1v2wAv3v4wAv5v6v7v8wAv9u30v1wAv2v3wAwBv4v5v6v7v8v9",
    "u40wAv1v2v3v4tIRRORHORIZONTALLYtODIFIERDAMAGED+hATBOTTOM+pANDEND+pEND+pSTART+uANDTOPEND+jEND+jSTART+oANDBOTTOM",
    "+rTOP+jTOP+mANDEND+mEND+mSTART+rANDBOTTOMENDsN001v2v3v4v5v6v7v8v9u10v1v2v3v4v5v6v7v8wAwBv9u20v1v2v3v4v5wAv6v7v",
    "8v9u30v1v2v3wAv4wAv5wAv6v7wAv8v9u40v1v2tL001w2w3w4w5xAw6w7w8w9v10w1w2w3w4w5w6w7xAw8w9v20tU001w2w3w4w5w6w7w8w9v",
    "10xAw1xAw2w3w4w5w6w7w8xAw9v20w1w2xAsO001wAv2v3v4v5wAv6wAwBwCwDwEwFv7v8v9u10wAwBwCv1v2v3v4v5v6v7v8v9wAu20wAv1v2",
    "v3v4wAv5wAv6v7v8v9wAu30wAv1v2v3wAv4v5v6wAwBwCwDv7v8v9u40v1v2v3v4v5v6v7v8v9u50wAwBv1tVERLAYMIDDLEsP001wAv2v3wAv",
    "4v5v6v7v8v9u10v1sQ001v2v3v4v5v6v7sR001v2wAv3wAwBv4v5v6v7v8v9u10wAv1v2v3v4v5v6wAv7v8v9u20v1v2v3v4v5v6v7v8v9sS00",
    "1v2wAv3v4v5v6wAv7v8v9u10v1v2v3v4wAwBv5v6v7wAv8v9u20v1v2v3v4v5v6wAwBv7v8v9u30v1v2v3v4v5wAv6v7v8v9u40v1v2v3v4v5v",
    "6sT001v2v3wAv4v5v6v7wAv8wAv9wAu10v1wAv2v3v4v5v6wAv7v8v9u20v1v2v3v4v5v6v7v8v9u30v1v2wAv3wAv4v5v6tALLLOSTSIGNsU0",
    "01v2v3v4v5v6wAwBv7v8v9u10v1v2v3v4v5v6v7v8v9u20v1v2v3wAv4v5v6v7v8v9wAu30v1v2wAv3v4v5v6v7v8v9u40v1v2sV001wAwBwCw",
    "DwEwFwGwHwIv2wAv3v4v5v6v7wAwBv8v9u10v1wAwBwCwDv2wAwBv3v4v5v6v7v8v9u20wAwBwCwDwEwFwGwHwIwJwKwLv1v2v3wAv4v5v6v7v",
    "8wAv9wAu30wAv1wAv2v3wAv4v5v6v7wAv8v9u40wAtERTICALJOINERsW001v2v3wAv4v5v6v7v8v9wAu10wAv1v2v3v4wAv5v6v7wAv8wAv9u",
    "20v1v2v3v4wAv5tIDELOSTSIGNsX001v2v3v4wAwBv5v6wAv7v8wAsY001wAv2v3v4v5v6v7v8sZ001v2wAwBwCwDv3wAwBv4wAv5wAv6v7v8v",
    "9u10v1v2v3v4v5wAwBwCwDwEwFwGwHwIv6wAwBwCwDwEwFwGwHbIGHTHNOTEfPETALLEDOUTLINEDBLACKFLORETTEgOINTEDBLACKSTARmPIN",
    "WHEELSTARmRECTILINEARBLACKSTARfSPOKEDASTERISKfTEARDROPSPOKEDPROPELLERASTERISKbJECTSYMBOLbLBASANLETTERAnBEnCEoH",
    "EnDEoHEnEoInFEnGEoHAMMApEoJEnHEnInJEnKEoHEnLEoLEnMEnNAoDEoEoJEnOnPEnQEnREoREnSEoHEnTEoHEnUnVEnXEnYnZEoHEcECTRI",
    "CALINTERSECTIONjRROWiLIGHTBULBiPLUGiTORCHdMENTOFjOPENINGDOWNWARDSqUPWARDSjWITHDOTABOVEnLONGHORIZONTALSTROKEnOV",
    "ERBARnTWOHORIZONTALSTROKESnUNDERBARnVERTICALBARATENDOFHORIZONTALSTROKEdPHANTdVATORcFcYMAICLETTERALEPHoYINnBETH",
    "nDALETHnGIMELnHEpTHnKAPHnLAMEDHnMEMnNUNnPEnQOPHnRESHnSADHEpMEKHoHINnTAWoETHnWAWnYODHnZAYINiIGATUREZAYINYODHbMc",
    "AILSYMBOLcDASHcOJICOMPONENTBALDoCURLYHAIRoREDHAIRoWHITEHAIRfMODIFIERFITZPATRICKTYPE12+c3+c4+c5+c6cPHASISSYMBOL",
    "dTYDOCUMENTfNESTgOTEjPADlGEfPAGEjSfSETiWITHLEFTARROWABOVEmOVERBARmRIGHTARROWABOVEmSMALLCIRCLEABOVEcQUADcSPACEb",
    "NDASHdOFGUARDEDAREAfLINEfMEDIUMfPROOFiTECTEDAREAfSELECTEDAREAfTEXTgRANSMISSIONrBLOCKdWITHLEFTWARDSARROWABOVEcQ",
    "dUADeIRYcSPACEcTERSYMBOLcVELOPEiWITHDOWNWARDSARROWABOVEmLIGHTNINGbOLcMcTbPAbQUALANDPARALLELTOfSCOLONgSIGNkABOV",
    "ELEFTWARDSARROWpPLUSSIGNpRIGHTWARDSARROWpTILDEOPERATORlNDSLANTEDPARALLEL+cWITHTILDEABOVEkWITHBUMPYABOVEoDOTBEL",
    "OWoINFINITYBELOWoTWODOTSABOVEANDTWODOTSBELOWgWITHASTERISKfTOBYDEFINITIONhORGREATERTHANjLESSTHANjPRECEDESjSUCCE",
    "EDSdIANGULARTOeVALENTTOkWITHFOURDOTSABOVEbRASETOTHELEFTkRIGHTcISFORMONEiTWOcRORBARREDBLACKCIRCLEqDIAMONDqSQUAR",
    "ElWHITECIRCLEqDIAMONDqSQUAREbSAcCdAPEcTIMATEDSYMBOLiSbTBcHIOPICCOLONkMBININGGEMINATIONANDVOWELLENGTHMARK+bMARK",
    "rVOWELLENGTHMARKlMAiDIGITEIGHTnFIVEoOURnNINEnONEnSEVENoIXnTHREEoWOiFULLSTOPiNUMBEREIGHTYoFIFTYpORTYoHUNDREDoNI",
    "NETYoSEVENTYpIXTYoTENrTHOUSANDpHIRTYpWENTYiPARAGRAPHSEPARATORjREFACECOLONiQUESTIONMARKiSECTIONMARKkMICOLONjYLL",
    "ABLEBAsArBAtAsEtEsIsOsUrEsErIrOsArUrWAsEtEsIqCAsArCAtAsEtEsHAuAtEuEtHAvAuEvEuIuOuUtItOtUsIsOsUrEsErHAtAsEtEsIs",
    "OtAsUsWArIrOsArUrWAqDAsArDAtAsEtEsHAAtEuEtItOtUsIsOtAsUsWArEsErIrOsArUrWArZAAsEtEsIsOsUqFAsArEsErIrOrUrWAsEtEs",
    "IrYAqGAsArEsErGAtAsEtEsIsOsUsWAuAtEuEtIrIrLOTTALAyAxEyExIxOyAxUxWArOsArUsRAGEBWEEyIwFWEEyIwGWEzEyIwHHWAwKWEzEy",
    "IwMWEEyIwPWEEyIwQWEzEyIrWAtAsEtEsIrYAtAsEtEsIsOsUqHAsArEsErHAtAsEtEsIsOsUsWAtEuEtIsYAuAtEuEtItOtUrIrOsArUqJAsA",
    "rEsErIrOsArUrWAqKAsArEsErIrOsArUrWAtAsEtEsIrXAtAsEtEsIsOsUsWAuAtEuEtIrYAtAsEtEsIsOsUqLAsArEsErIrOsArUrWAqMAsAr",
    "EsErIrOsArUrWAsEtEsIrYAqNAsArEsErIrOsArUrWArYAtAsEtEsIsOtAsUsWAqPAsArEsErHAtAtRYNGEALA+bA+aE+bE+aI+aO+aUsEtEsI",
    "sOtAsUsWArIrOsArUrWAsEtEsIqQAsArEsErHAtAsEtEsIsOsUsWAuAtEuEtIrIrOsArUrWAtAsEtEsIrYAtAsEtEsIsOsUqRAsArEsErIrOsA",
    "rUrWArYAqSAsArEsBATBEITBWAzFWAzMWAzPWAsErHAtAsEtEsIsOtAsUsWArIrOsArSAtAsEtEsIsOsUrUrWArZAtAsEtEsIsOsUsWAqTAsAr",
    "EsErHAtAsEtEsIsOtAsUsWArIrOsArSAtAsEtEsIsOsUsWArTHAAtEuEtItOtUrUrWArZAtAsEtEsIsOtAsUqVAsArEsErIrOrUrWAqWAsArEs",
    "ErIrOsArUqXAsArEsErIrOsArUrWAtAsEtEsIrYAtAsEtEsIsOsUqYAsArEsErIrOsArUqZAsArEsErHAtAsEtEsIsOsUsWArIrOsArUrWArZA",
    "tAsEtEsIsOsUiTONALMARKCHIRETrDERETwHIDETsIFATrHIDETrKENATsURTrRIKRIKrSHORTRIKRIKrYIZETiWORDSPACEcXbULERCONSTAN",
    "TcROCURRENCYSIGNePEANCASTLEiPOSTOFFICEeSIGNbVERGREENTREEbXCESSdLAMATIONMARKlQUESTIONMARKcPRESSIONLESSFACEcTEND",
    "EDARABICINDICDIGITEIGHTyFIVEzOURyNINEyONEySEVENzIXyTHREEzWOyZEROdRATERRESTRIALALIENeEMELYHEAVYFIVESPOKEDASTERI",
    "SKoGREEKCROSSoSALTIREpIXSPOKEDASTERISKoWHITECIRCLEtSQUAREbYEdGLASSESdS"]

/-- The names that start with F. -/
def namesF : List String :=
  ["aFACEHOLDINGBACKTEARSeMASSAGEePALMeSAVOURINGDELICIOUSFOODfCREAMINGINFEAReTHROWINGAKISSeWITHCOLDSWEATkWBOYHATiD",
    "IAGONALMOUTHiFINGERCOVERINGCLOSEDLIPSiHEADBANDAGEiLOOKOFTRIUMPHiMEDICALMASKjONOCLEiNOGOODGESTUREiOKGESTUREjNEE",
    "YEBROWRAISEDjPENEYESANDHANDOVERMOUTHmMOUTHrANDCOLDSWEATrVOMITINGjUTMOUTHiPARTYHORNANDPARTYHATjEEKINGEYEjLEADIN",
    "GEYESiROLLINGEYESiSTUCKOUTTONGUEwANDTIGHTLYCLOSEDEYESzWINKINGEYEiTEARSOFJOYjHERMOMETERiUNEVENEYESANDWAVYMOUTHd",
    "SIMILESIGNdTORYcIRYcLAFELdLENLEAFeINGDIAGONALCROSSINGNORTHEASTARROWxRISINGDIAGONALpINWHITECIRCLEINBLACKSQUAREc",
    "MILYcRSISYMBOLcTHERCHRISTMAScXICONdMACHINEbEARFULFACEdTHERcMALESIGNdININEORDINALINDICATORcNCERcRRISWHEELeYbFbI",
    "ELDHOCKEYSTICKANDBALLcGUREDASHgSPACEcLECABINETeFOLDEReSEPARATORdMFRAMESePROJECTORcNITEPARTINTEGRALcREeCRACKERe",
    "ENGINEfXTINGUISHEReWORKSjPARKLERdSTPLACEMEDALfQUARTERMOONqSYMBOLqWITHFACEfSTRONGISOLATEcSHeCAKEWITHSWIRLDESIGN",
    "eEYEeINGPOLEANDFISHdTEDHANDSIGNcVEDOTMARKhPUNCTUATIONbLAGINHOLEdMINGOdTBREADeNESSeSHOEcEURDELISdXEDBICEPScOPPY",
    "DISKdRALHEARTdWERgPLAYINGCARDShUNCTUATIONMARKcUSHEDFACEdTEcYdINGDISCgENVELOPEgSAUCERbOGdGYcLDEReINGHANDFANcNDU",
    "EcOTePRINTScRALLdCESdKANDKNIFEmWITHPLATEeEDPARAGRAPHOSeINGdMFEEDdTUNECOOKIEcUNTAINdRBALLOONSPOKEDASTERISKeCLUB",
    "SPOKEDASTERISKfORNERARROWSCIRCLINGANTICLOCKWISEeDOTMARKhPUNCTUATIONeLEAFCLOVERePEREMSPACEfOINTEDBLACKSTAReTEAR",
    "DROPSPOKEDASTERISKfHROOTcXFACEbRACTIONNUMERATORONEiSLASHdMEWITHANXjPICTUREjTILEScEEZINGFACEdNCHFRANCSIGNiIEScI",
    "EDSHRIMPcOGFACEdNTFACINGBABYCHICKfTILTEDSHADOWEDWHITERIGHTWARDSARROWdWNfINGFACEWITHOPENMOUTHbScIbUELPUMPcLLBLO",
    "CKeMOONSYMBOLiWITHFACEeOUTERJOINeSTOPeWIDTHAMPERSANDkPOSTROPHEkSTERISKjBROKENBARjCENTSIGNkIRCUMFLEXACCENTkOLON",
    "lMMAnERCIALATjDIGITEIGHToFIVEpOURoNINEoONEoSEVENpIXoTHREEpWOoZEROkOLLARSIGNjEQUALSSIGNkXCLAMATIONMARKjFULLSTOP",
    "jGRAVEACCENTlEATERTHANSIGNjHYPHENMINUSjLATINCAPITALLETTERA+bB+bC+bD+bE+bF+bG+bH+bI+bJ+bK+bL+bM+bN+bO+bP+bQ+bR+",
    "bS+bT+bU+bV+bW+bX+bY+bZoSMALLLETTERAzBzCzDzEzFzGzHzIzJzKzLzMzNzOzPzQzRzSzTzUzVzWzXzYzZkEFTCURLYBRACKETnPARENTH",
    "ESISnSQUAREBRACKETnWHITEPARENTHESISlSSTHANSIGNkOWLINEjMACRONjNOTSIGNkUMBERSIGNjPERCENTSIGNkLUSSIGNkOUNDSIGNjQU",
    "ESTIONMARKlOTATIONMARKjREVERSESOLIDUSkIGHTCURLYBRACKEToPARENTHESISoSQUAREBRACKEToWHITEPARENTHESISjSEMICOLONkOL",
    "IDUSjTILDEjVERTICALLINEjWONSIGNjYENSIGNcNCTIONAPPLICATIONdERALURNcSEbVS1d2d3d4"]

/-- The names that start with G. -/
def namesG : List String :=
  ["aGAMEDIEcRLICbEAReWITHHANDLESiOUTHUBcMINIdSTONEcNIEcOMETRICALLYEQUALTOqIVALENTTOjPROPORTIONdRGIANCAPITALLETTER",
    "AENwNvBANvCANwHARxINwILvDONvENvGANwHANvHAExRwEwIEwOEvINvJHANwILvKANwHARvLASvMANvNARvONvPARwHARvQARvRAEvSANwHIN",
    "vTANxRvUNvVINvWEvXANvYNvZENwHARiLETTERAENpINpNoBANoCANpHARqINpILoDONoELIFIpNoFIoGANpHANoHAEqRrDSIGNpEpIEpOEoIN",
    "oJHANpILoKANpHARoLABIALSIGNqSoMANoNARoONoPARpHARoQARoRAEoSANpHINoTANqRpURNEDGANoUNoVINoWEoXANoYNoZENpHARiMTAVR",
    "ULICAPITALLETTERAEN+eIN+eN+dBAN+dCAN+eHAR+fIN+eIL+dDON+dELIFI+eN+dFI+dGAN+eHAN+dHAE+fR+gDSIGN+eE+eIE+eOE+dIN+d",
    "JHAN+eIL+dKAN+eHAR+dLABIALSIGN+fS+dMAN+dNAR+dON+dPAR+eHAR+dQAR+dRAE+dSAN+eHIN+dTAN+fR+eURNEDGAN+dUN+dVIN+dWE+d",
    "XAN+dYN+dZEN+eHARiPARAGRAPHSEPARATORiSMALLLETTERAENuNtBANtCANuHARvINuILtDONtENtGANuHANtHAEvRuEuIEuOEtINtJHANuI",
    "LtKANuHARtLAStMANtNARtONtPARuHARtQARtRAEtSANuHINtTANvRtUNtVINtWEtXANtYNtZENuHARcRMANPENNYSIGNcTAMARKbHOSTbIMEL",
    "SYMBOLcNGERROOTcRAFFEFACEdLeSSYMBOLbLAGOLITICCAPITALLETTERAZUxBIGYUSyUKYxCAUDATECHRIVIyHRIVIxDJERVIyOBROyZELOx",
    "FITAyRITUxGLAGOLIxHERUxIyNITIALIZHEyOTATEDBIGYUS+eSMALLYUSyZHE+aITSAxKAKOxLATINATEMYSLITEyJUDIJExMYSLITExNASHI",
    "xONUyTUxPEyOKOJIxRITSIxSHAzTA+bPICyLOVOyMALLYUS+fWITHTAILyPIDERYHAxTROKUTASTIAySIyVRIDOxUKUxVEDExYATIyERI+aUzS",
    "TUyOyUxZEMLJAyHIVETEkSMALLLETTERAZUvBIGYUSwUKYvCAUDATECHRIVIwHRIVIvDJERVIwOBROwZELOvFITAwRITUvGLAGOLIvHERUvIwN",
    "ITIALIZHEwOTATEDBIGYUS+cSMALLYUSwZHEyITSAvKAKOvLATINATEMYSLITEwJUDIJEvMYSLITEvNASHIvONUwTUvPEwOKOJIvRITSIvSHAx",
    "TAzPICwLOVOwMALLYUS+dWITHTAILwPIDERYHAvTROKUTASTIAwSIwVRIDOvUKUvVEDEvYATIwERIyUxSTUwOwUvZEMLJAwHIVETEdSSOFMILK",
    "cEICHSTARKcOBEWITHMERIDIANSdVESdWINGSTARbOALNETdTcGGLEScLFERcNGGONGcOSEcRILLAcTHICLETTERAHSAnIHVUSmBAIRKANmDAG",
    "SmEISmFAIHUmGIBAmHAGLnWAIRmIGGWSnUJAmJERmKUSMAmLAGUSmMANNAmNAUTHSnINEHUNDREDqTYmOTHALmPAIRTHRAmQAIRTHRAmRAIDAm",
    "SAUILmTEIWSnHIUTHmURUSmWINJAbRADUATIONCAPdNTHAAULENGTHMARKhLETTERAoAoIoUnBAoHAnCAoHAnDAoDApHAoHAnEEnGAoHAnHAnI",
    "oInJAoHAnKAoHAnLAoLAnMAnNAoGAoNAoYAnOOnPAoHAnRAnSAoHAoSAnTAoHAoTApHAnUoUnVAoEDICANUSVARAsDOUBLEANUSVARAoOCALIC",
    "LvLuRvRnYAhOMhSIGNANUSVARAmVAGRAHAlCANDRABINDUmOMBININGANUSVARAABOVElNUKTAlPLUTAlVIRAMAnSARGAhVOWELSIGNAArIrUq",
    "EEqIrIqOOqUrUqVOCALICLyLxRyRdPESdVEACCENTcEATERTHANABOVEDOUBLELINEEQUALABOVELESSTHANqLESSTHANABOVEDOUBLELINEEQ",
    "UALqRIGHTWARDSARROWqSIMILARABOVELESSTHANxOREQUALrLANTEDEQUALABOVELESSTHANABOVESLANTEDEQUALmNDNOTAPPROXIMATEoSI",
    "NGLELINENOTEQUALTOlBESIDELESSTHANmUTNOTEQUALTOuIVALENTTOlCLOSEDBYCURVEyABOVESLANTEDEQUALlEQUALTOORLESSTHANlORA",
    "PPROXIMATEnEQUALTOqIVALENTTOnLESSTHANnSLANTEDEQUALTO+bWITHDOTABOVE+nLEFT+iINSIDEmVEREQUALTOpLAPPINGLESSTHANlSI",
    "GNlWITHCIRCLEINSIDEpDOTpQUESTIONMARKABOVEdEKACROPHONICATTICFIFTYzSTATERSzTALENTS+aHOUSAND+hSTATERSwVEyHUNDRED+",
    "fSTATERS+fTALENTSySTATERSyTALENTSzHOUSAND+gTALENTSuONEDRACHMAxHALFyUNDREDSTATERS+eTALENTSxQUARTERxTHOUSANDSTAT",
    "ERS+fTALENTSuTENMNASxSTATERSxTALENTSyHOUSANDSTATERSpCARYSTIANFIVEHUNDREDqYRENAICTWODRACHMASpDELPHICFIVEMNASpEP",
    "IDAUREANFIVEHUNDREDzTWO+cDRACHMASpHERAEUMONEPLETHRONsMIONIANFIFTYzONEzTENpMESSENIANTENpNAXIANFIVEHUNDREDpSTRAT",
    "IANFIFTYMNASpTHESPIANFIFTYzVEHUNDRED+bTHOUSANDxONE+aHUNDRED+aTHOUSANDxTENyHIRTYzREEHUNDREDyWOqROEZENIANFIFTY+e",
    "ALTERNATEFORM+bVE+dHUNDREDzTEN+cALTERNATEFORMgNOTELEIAgROURASIGNhTABESIGNfBETASYMBOLfCAPITALDOTTEDLUNATESIGMAS",
    "YMBOLmKAISYMBOLmLETTERALPHAxWITHDASIA+gANDOXIA+nANDPROSGEGRAMMENI+jPERISPOMENI+uANDPROSGEGRAMMENI+kROSGEGRAMME",
    "NI+jVARIA+oANDPROSGEGRAMMENI+bMACRON+bOXIA+bPROSGEGRAMMENI+cSILI+gANDOXIA+nANDPROSGEGRAMMENI+jPERISPOMENI+uAND",
    "PROSGEGRAMMENI+kROSGEGRAMMENI+jVARIA+oANDPROSGEGRAMMENI+bTONOS+bVARIA+cRACHYtRCHAICSAMPIsBETAsCHIsDELTAsEPSILO",
    "NzWITHDASIA+iANDOXIA+lVARIA+dOXIA+dPSILI+iANDOXIA+lVARIA+dTONOS+dVARIAtTAvWITHDASIA+eANDOXIA+lANDPROSGEGRAMMEN",
    "I+hPERISPOMENI+sANDPROSGEGRAMMENI+iROSGEGRAMMENI+hVARIA+mANDPROSGEGRAMMENIzOXIAzPROSGEGRAMMENI+aSILI+eANDOXIA+",
    "lANDPROSGEGRAMMENI+hPERISPOMENI+sANDPROSGEGRAMMENI+iROSGEGRAMMENI+hVARIA+mANDPROSGEGRAMMENIzTONOSzVARIAsGAMMAs",
    "HETAsIOTAwWITHDASIA+fANDOXIA+iPERISPOMENI+iVARIA+bIALYTIKA+aMACRON+aOXIA+aPSILI+fANDOXIA+iPERISPOMENI+iVARIA+a",
    "TONOS+aVARIA+bRACHYsKAPPAsLAMDAsMUsNUsOMEGAxWITHDASIA+gANDOXIA+nANDPROSGEGRAMMENI+jPERISPOMENI+uANDPROSGEGRAMM",
    "ENI+kROSGEGRAMMENI+jVARIA+oANDPROSGEGRAMMENI+bOXIA+bPROSGEGRAMMENI+cSILI+gANDOXIA+nANDPROSGEGRAMMENI+jPERISPOM",
    "ENI+uANDPROSGEGRAMMENI+kROSGEGRAMMENI+jVARIA+oANDPROSGEGRAMMENI+bTONOS+bVARIAuICRONzWITHDASIA+iANDOXIA+lVARIA+",
    "dOXIA+dPSILI+iANDOXIA+lVARIA+dTONOS+dVARIAsPAMPHYLIANDIGAMMAtHItItSIsRHOvWITHDASIAsSANtHOtIGMAsTAUtHETAsUPSILO",
    "NzWITHDASIA+iANDOXIA+lPERISPOMENI+lVARIA+eIALYTIKA+dMACRON+dOXIA+dTONOS+dVARIA+eRACHYsXIsYOTsZETAnUNATESIGMASY",
    "MBOLmREVERSEDDOTTEDLUNATESIGMASYMBOLuLUNATESIGMASYMBOLmTHETASYMBOLfDASIAkANDOXIAnPERISPOMENInVARIAgIALYTIKAAND",
    "OXIArPERISPOMENIrVARIAoTONOSgRACHMASIGNfFIVEOBOLSSIGNgOUROBOLSSIGNfGRAMMASIGNfINDICTIONSIGNhSTRUMENTALNOTATION",
    "SYMBOL1+g1+g2+g3+g4+g7+g8+g9+f2+g3+g4+g5+g6+g7+g9+f30+g2+g6+g7+g8+g9+f4+g0+g2+g3+g5+g7+g8+g9+f5+g0+g1+g2+g3+g4",
    "+f7+f8fKAISYMBOLhPPASYMBOLgORONISgYATHOSBASESIGNfLETTERARCHAICKOPPAlDIGAMMAlKOPPAlSAMPImMALLCAPITALGAMMAxLAMDA",
    "xOMEGAxPIySIxRHOmTIGMAlYOTgITRASIGNgOWERNUMERALSIGNgUNATEEPSILONSYMBOLlSIGMASYMBOLfMETRETESSIGNgUSICALLEIMMAfN",
    "UMERALSIGNfOBOLSIGNgNEHALFSIGNqALTERNATEFORMiQUARTERSIGNgUNKIASIGNgXIAfPERISPOMENIgHISYMBOLgISYMBOLgROSGEGRAMM",
    "ENIgSILIkANDOXIAnPERISPOMENInVARIAfQUESTIONMARKfREVERSEDLUNATEEPSILONSYMBOLgHOSYMBOLiWITHSTROKESYMBOLfSINUSOID",
    "SIGNgMALLDOTTEDLUNATESIGMASYMBOLkLETTERALPHAvWITHDASIA+eANDOXIA+lANDYPOGEGRAMMENI+hPERISPOMENI+sANDYPOGEGRAMME",
    "NI+hVARIA+mANDYPOGEGRAMMENI+hYPOGEGRAMMENIzMACRONzOXIA+dANDYPOGEGRAMMENIzPERISPOMENI+kANDYPOGEGRAMMENI+aSILI+e",
    "ANDOXIA+lANDYPOGEGRAMMENI+hPERISPOMENI+sANDYPOGEGRAMMENI+hVARIA+mANDYPOGEGRAMMENI+hYPOGEGRAMMENIzTONOSzVARIA+e",
    "ANDYPOGEGRAMMENI+aRACHYzYPOGEGRAMMENIrRCHAICKOPPAxSAMPIqBETAqCHIqDELTArIGAMMAqEPSILONxWITHDASIA+gANDOXIA+jVARI",
    "A+bOXIA+bPSILI+gANDOXIA+jVARIA+bTONOS+bVARIArTAtWITHDASIA+cANDOXIA+jANDYPOGEGRAMMENI+fPERISPOMENI+qANDYPOGEGRA",
    "MMENI+fVARIA+kANDYPOGEGRAMMENI+fYPOGEGRAMMENIxOXIA+bANDYPOGEGRAMMENIxPERISPOMENI+iANDYPOGEGRAMMENIySILI+cANDOX",
    "IA+jANDYPOGEGRAMMENI+fPERISPOMENI+qANDYPOGEGRAMMENI+fVARIA+kANDYPOGEGRAMMENI+fYPOGEGRAMMENIxTONOSxVARIA+cANDYP",
    "OGEGRAMMENIxYPOGEGRAMMENIqFINALSIGMAqGAMMAqHETAqIOTAuWITHDASIA+dANDOXIA+gPERISPOMENI+gVARIAzIALYTIKA+hANDOXIA+",
    "kPERISPOMENI+kTONOS+kVARIAyMACRONyOXIAyPERISPOMENIzSILI+dANDOXIA+gPERISPOMENI+gVARIAyTONOSyVARIAzRACHYqKAPPArO",
    "PPAqLAMDAqMUqNUqOMEGAvWITHDASIA+eANDOXIA+lANDYPOGEGRAMMENI+hPERISPOMENI+sANDYPOGEGRAMMENI+hVARIA+mANDYPOGEGRAM",
    "MENI+hYPOGEGRAMMENIzOXIA+dANDYPOGEGRAMMENIzPERISPOMENI+kANDYPOGEGRAMMENI+aSILI+eANDOXIA+lANDYPOGEGRAMMENI+hPER",
    "ISPOMENI+sANDYPOGEGRAMMENI+hVARIA+mANDYPOGEGRAMMENI+hYPOGEGRAMMENIzTONOSzVARIA+eANDYPOGEGRAMMENIzYPOGEGRAMMENI",
    "sICRONxWITHDASIA+gANDOXIA+jVARIA+bOXIA+bPSILI+gANDOXIA+jVARIA+bTONOS+bVARIAqPAMPHYLIANDIGAMMArHIrIrSIqRHOtWITH",
    "DASIAxPSILIqSAMPIsNrHOrIGMArTIGMAqTAUrHETAqUPSILONxWITHDASIA+gANDOXIA+jPERISPOMENI+jVARIA+cIALYTIKA+kANDOXIA+n",
    "PERISPOMENI+nTONOS+nVARIA+bMACRON+bOXIA+bPERISPOMENI+cSILI+gANDOXIA+jPERISPOMENI+jVARIA+bTONOS+bVARIA+cRACHYqX",
    "IqZETAkREVERSEDDOTTEDLUNATESIGMASYMBOLsLUNATESIGMASYMBOLgUBSCRIPTSMALLLETTERBETAzCHIzGAMMAzPHIzRHOgYMBOLTAURHO",
    "fTALENTSIGNgHETASYMBOLhREEOBOLSSIGNkQUARTERSSIGNgONOSgRYBLIONBASESIGNgWOOBOLSSIGNiTHIRDSSIGNfUPSILONWITHACUTEA",
    "NDHOOKSYMBOLqDIAERESISANDHOOKSYMBOLqHOOKSYMBOLfVARIAgOCALNOTATIONSYMBOL1z0z1z2z3z4z5z6z7z8z9y2z0z1z2z3z4y3y4y5",
    "z0z1z2z3z4y6y7y8y9fXESTESSIGNfYEARSIGNgPOGEGRAMMENIfZEROSIGNeNAPPLEfBOOKfHEARTfSALADdYHEARTcIMACINGFACEdNNINGC",
    "ATFACEWITHSMILINGEYESiFACEmWITHONELARGEANDONESMALLEYEqSMILINGEYESrTAREYEScOUPMARKfSEPARATORdWINGHEARTbSbUARANI",
    "SIGNeDSMANcIDEDOGdTARcJARATIABBREVIATIONSIGNiDIGITEIGHTnFIVEoOURnNINEnONEnSEVENoIXnTHREEoWOnZEROiLETTERApApIpU",
    "oBApHAoCApHAoDApDAqHApHAoEoGApHAoHAoIpIoJApHAoKApHAoLApLAoMAoNApGApNApYAoOoPApHAoRAoSApHApSAoTApHApTAqHAoUpUoV",
    "ApOCALICLwLvRwRoYAoZHAiOMiRUPEESIGNiSIGNANUSVARAnVAGRAHAmCANDRABINDUnIRCLENUKTAABOVEmMADDAHmNUKTAmSHADDAnUKUNm",
    "THREEDOTNUKTAABOVEnWOCIRCLENUKTAABOVEmVIRAMAoSARGAiVOWELCANDRAEtOnSIGNAAsIsUrCANDRAExOrErIsIrOrUsUrVOCALICLzLy",
    "RzRcNJALAGONDIDIGITEIGHTrFIVEsOURrNINErONErSEVENsIXrTHREEsWOrZEROmLETTERAtAtItUsBAtHAsCAtHAsDAtDAuHAtHAsEEsGAt",
    "HAsHAsItIsJAtHAsKAtHAsLAtLAsMAsNAtGAsOOsPAtHAsRAsSAsTAtHAtTAuHAsUtUsVAsYAmOMmSIGNANUSVARAqVISARGAmVIRAMAnOWELS",
    "IGNAAwIwUvEEvIwIvOOvUwUcRMUKHIABBREVIATIONSIGNjDDAKiDIGITEIGHTnFIVEoOURnNINEnONEnSEVENoIXnTHREEoWOnZEROiEKONKA",
    "RiIRIiLETTERApApIpUoBApHAoCApHAoDApDAqHApHAoEEoFAoGApHAqHAoHAoIpIoJApHAoKApHAqHAoLApLAoMAoNApGApNApYAoOOoPApHA",
    "oRApRAoSApHAoTApHApTAqHAoUpUoVAoYAoZAiSIGNADAKBINDImBINDImNUKTAmUDAATmVIRAMAoSARGAmYAKASHiTIPPIiURAiVOWELSIGNA",
    "AsIsUrEErIsIrOOrUsU"]

/-- The names that start with H. -/
def namesH : List String :=
  ["aHADEScIRCUTePICKeSPACEcLFWIDTHBLACKSQUAREjDOWNWARDSARROWjFORMSLIGHTVERTICALjHANGULFILLERpLETTERAwEvCHIEUCHwIE",
    "UCvEwOwUvHIEUHvIwEUNGvKHIEUKHwIYEOK+bSIOSvMIEUMvNIEUN+aCIEUC+aHIEUHvOwEvPHIEUPHwIEUP+aSIOSvRIEUL+aHIEUH+aKIYEO",
    "K+aMIEUM+aPHIEUPH+bIEUP+aSIOS+aTHIEUTHvSIOSwSANGCIEUC+aKIYEOK+aPIEUP+aSIOS+aTIKEUTvTHIEUTHwIKEUTvUvWAxEwExOwIv",
    "YAxEwExOwIwOwUjIDEOGRAPHICCOMMAuFULLSTOPjKATAKANAHIRAGANAPROLONGEDSOUNDMARKrLETTERAxExHAyEyIyOyUxIxKAyEyIyOyUx",
    "MAyEyIyOyUxNyAyEyIyOyUxOxRAyEyIyOyUxSAyEyIyMALLA+cE+cI+cO+cTU+cU+cYA+dO+dUyOyUxTAyEyIyOyUxUxWAyOxYAyOyUrMIDDLE",
    "DOTrSEMIVOICEDSOUNDMARKrVOICEDSOUNDMARKjLEFTCORNERBRACKETnWARDSARROWjRIGHTCORNERBRACKEToWARDSARROWjUPWARDSARRO",
    "WjWHITECIRCLEcMBURGERdMERgANDPICKjSICKLEjWRENCHdSAeTERFACEcNDBAGgLLeSHAKEeWITHINDEXANDMIDDLEFINGERSCROSSEDnFIN",
    "GERANDTHUMBCROSSEDdGULCHOSEONGCEONGCHIEUMCHIEUCH+aIEUCzSIOS+aSANGCIEUC+eSIOSpHIEUCHvHIEUHvKHIEUKHrTUEUMCHIEUCH",
    "xIEUCwSIOSxSANGCIEUC+bSIOSpIEUCtIEUNGoFILLERoHIEUHtSIOSoIEUNGtCHIEUCHuIEUCtHIEUHtKIYEOKtMIEUMtPANSIOSuHIEUPHuI",
    "EUPtRIEULtSIOStTHIEUTHuIKEUToKAPYEOUNMIEUMwPHIEUPHxIEUPwRIEULwSSANGPIEUPpHIEUKHpIYEOKuTIKEUToMIEUMtKIYEOKtPIEU",
    "PtSIOStTIKEUToNIEUNtCIEUCtHIEUHtKIYEOKtPIEUPtSIOStTIKEUToPANSIOSpHIEUPHvHIEUHvPIEUPpIEUPtCHIEUCHuIEUCtHIEUHtKH",
    "IEUKHuIYEOKtNIEUNtPHIEUPHtSIOSxCIEUCxKIYEOKxPIEUPxTHIEUTHyIKEUTuSANGSIOStTHIEUTHuIKEUToRIEULtCIEUCtHIEUHtKAPYE",
    "OUNPIEUPuHIEUKHuIYEOKtMIEUMtNIEUNtPIEUPtSIOSuSANGKIYEOKyPIEUPyTIKEUTtTIKEUToSIOSsCHIEUCHtIEUCsHIEUHsIEUNGsKHIE",
    "UKHtIYEOKsMIEUMsNIEUNsPHIEUPHtIEUPxKIYEOKsRIEULsSSANGSIOSsTHIEUTHtIKEUTpSANGCIEUCyHIEUHtHIEUHtIEUNGtKIYEOKtNIE",
    "UNtPIEUPtRIEULtSIOSxPIEUPtTHIEUTHuIKEUTtYEORINHIEUHoTHIEUTHpIKEUTuCIEUCuKIYEOKuMIEUMuPIEUPuRIEULuSIOSoYEORINHI",
    "EUHqSIEUNGgDOUBLEDOTTONEMARKgFILLERgJONGSEONGCHIEUCHqIEUCuPIEUPuSSANGPIEUPpHIEUHuMIEUMuNIEUNuPIEUPuRIEULpIEUNG",
    "uKHIEUKHvIYEOKuSSANGKIYEOKpKAPYEOUNMIEUMxPHIEUPHyIEUPxRIEULqHIEUKHqIYEOKvCHIEUCHvHIEUHvKHIEUKHvNIEUNvPIEUPvRIE",
    "ULvSIOSzKIYEOKpMIEUMuCHIEUCHvIEUCuHIEUHuKIYEOKuNIEUNuPANSIOSvIEUPzSIOSuRIEULuSIOSvSANGNIEUNzSIOSpNIEUNuCHIEUCH",
    "vIEUCuHIEUHuKIYEOKuPANSIOSuRIEULuSIOSuTHIEUTHvIKEUTpPANSIOSwKAPYEOUNPIEUPwPIEUPqHIEUPHwPIEUPwSIOSwTHIEUTHqIEUP",
    "uCHIEUCHvIEUCuHIEUHuMIEUMuPHIEUPHuRIEULzPHIEUPHuSIOSyTIKEUTuTIKEUTpRIEULuHIEUHuKAPYEOUNPIEUPvHIEUKHvIYEOK+aHIE",
    "UH+aSIOSuMIEUMzHIEUHzKIYEOKzSIOSuNIEUNuPANSIOSvHIEUPHvIEUPzHIEUHzPHIEUPHzSIOSzTIKEUTuSIOSvSANGKIYEOKzSIOSuTHIE",
    "UTHvIKEUT+aHIEUHuYEORINHIEUH+fHIEUHwSIEUNGpSIOStCHIEUCHuIEUCtHIEUHtKAPYEOUNPIEUPuIYEOKtMIEUMtPANSIOSuIEUPtRIEU",
    "LtTHIEUTHuIKEUTqSANGCIEUCuIEUNGuKIYEOKuMIEUMuNIEUNuPIEUPuRIEULzKHIEUKHuSIOSyKIYEOKyTIKEUTuTIKEUT+aPIEUPuYESIEU",
    "NGpTHIEUTHqIKEUTvCHIEUCHwIEUCvKIYEOKvPIEUPvRIEULvSIOSzKIYEOKvTHIEUTHpYEORINHIEUHrSIEUNGxHIEUHxKHIEUKHyIYEOKxMI",
    "EUMxPANSIOSxSIOSySANGKIYEOKhUNGSEONGAqErUqOqRAEAuAuEvOuIuUqUpEqOrEUrOrUqUrArEsOsUrOrUpFILLERpIqArRAEAqEUqIqOrI",
    "qUqYAsEsOrEsOrOrUpOqErOqOrIqUqYAsErEsOpSSANGARAEApUqArEqEOEUqIIqUqYEsOpWArEqErOqIpYArErOrUrYOqErOsOsUsYAqIrUqO",
    "rAsErEOrIrOrYAtEsEOqUrAsErEsOrIrOrUrYEtOgLETTERAnEnRAEArEmCHIEUCHnIEUCmEnOnUmHIEUHmInEUNGmKAPYEOUNMIEUMuPHIEUP",
    "HvIEUPuSSANGPIEUPnHIEUKHnIYEOKsSIOSmMIEUMrPANSIOSsIEUPrSIOSmNIEUNrCIEUCrHIEUHrPANSIOSrSIOSrTIKEUTmOnEmPANSIOSn",
    "HIEUPHnIEUPrCIEUCrKIYEOKrSIOSvKIYEOKvTIKEUTrTHIEUTHsIKEUTmRIEULrHIEUHrKIYEOKxSIOSrMIEUMrPANSIOSsHIEUPHsIEUPwSI",
    "OSrSIOSrTHIEUTHsIKEUTrYEORINHIEUHmSIOSqCIEUCqKIYEOKqNIEUNqPIEUPqTIKEUTnSANGCIEUCrHIEUHrIEUNGrKIYEOKrNIEUNrPIEU",
    "PrSIOSrTIKEUTmTHIEUTHnIKEUTmUmWAoEnEoOnImYAoEnEoOpRINHIEUHoSIEUNGuPANSIOSuSIOSnInOoIoYAqEnUoIoYEqOgSINGLEDOTTO",
    "NEMARKeZHOUNUMERALEIGHTpFIVEqOURpNINEpONEpSEVENqIXpTENqHIRTYrREEqWENTYrOdIFIROHINGYADIGITEIGHTtFIVEuOURtNINEtO",
    "NEtSEVENuIXtTHREEuWOtZEROoLETTERAuBAuCAuDAvDAuFAuGAuHAuJAuKAvHAvINNAWAzYAuLAuMAuNAvGAvYAuPAuRAvRAuSAvHAuTAvTAu",
    "VAuWAuYAuZAoMARKNAKHONNAsSAKINoSIGNHARBAHAYsTAHALAuNAuSSIoVOWELAtEtItOtUdUNOOLETTERAnBAnDAnGAnHAnInKAnLAnMAnNA",
    "oGAnPAnRAnSAnTAnUnWAnYAhSIGNPAMUDPODhVOWELSIGNIqUcPPYPERSONRAISINGONEHANDcRDDISKcTCHINGCHICKdRANLETTERALEPHnYN",
    "mBETHmDALETHRESHmGIMELmHEoTHmKAPHmLAMEDHmMEMmNUNmPEmQOPHmSADHEoMEKHnHINmTAWnETHmWAWmYODHmZAYNgNUMBERFIVEmONEpH",
    "UNDREDmTENnWENTYcUMEAbEADPHONEeSTONEjGRAVEYARDSYMBOLdRNOEVILMONKEYeTDECORATIONfHANDSfWITHARROWjRIBBONjTIPONTHE",
    "LEFTdVYAMPERSANDORNAMENTgRROWSHAFTWIDTHONExHALFxTHIRDuTWOTHIRDSgSTERISKfBALLOTXgLACKCURVEDDOWNWARDSANDRIGHTWAR",
    "DSARROWqUPWARDSANDRIGHTWARDSARROWkFEATHEREDNORTHEASTARROWtRIGHTWARDSARROWtSOUTHEASTARROWkHEARTfCHECKMARKiVRONS",
    "NOWFLAKEgIRCLElDSALTIRElWITHCIRCLEINSIDEpSTROKEANDTWODOTSABOVEgONCAVEPOINTEDBLACKRIGHTWARDSARROWfDASHEDTRIANGL",
    "EHEADEDRIGHTWARDSARROWgIVISIONSIGNgOLLARSIGNhUBLECOMMAQUOTATIONMARKORNAMENTlTURNEDCOMMAQUOTATIONMARKORNAMENThW",
    "NWARDSARROWWITHEQUILATERALARROWHEADxLARGEEQUILATERALARROWHEADfEIGHTPOINTEDBLACKSTARrPINWHEELSTARrRECTILINEARBL",
    "ACKSTARkSPOKEDASTERISKkTEARDROPSPOKEDPROPELLERASTERISKgQUALSSIGNgXCLAMATIONMARKORNAMENTuSYMBOLfFIVEPOINTEDBLAC",
    "KSTARjSPOKEDASTERISKgOURBALLOONSPOKEDASTERISKfGREEKCROSSfHEARTEXCLAMATIONMARKORNAMENTgORIZONTALFILLfINTERROBAN",
    "GORNAMENTfLARGECIRCLEhTINCROSSgEFTPOINTINGANGLEBRACKETORNAMENTwQUOTATIONMARKORNAMENTjWARDSARROWWITHEQUILATERAL",
    "ARROWHEADxLARGEEQUILATERALARROWHEADgIGATUREOPENETORNAMENTgOWDOUBLECOMMAQUOTATIONMARKORNAMENTiERRIGHTSHADOWEDWH",
    "ITERIGHTWARDSARROWiSINGLECOMMAQUOTATIONMARKORNAMENTfMINUSSIGNgULTIPLICATIONXfNORTHEASTARROWoPOINTINGBUDwVINELE",
    "AFkWESTPOINTINGBUDwVINELEAFfOPENCENTRECROSSgUTLINEDBLACKSTARgVALWITHOVALINSIDEfPLUSSIGNfRIGHTPOINTINGANGLEBRAC",
    "KETORNAMENTxQUOTATIONMARKORNAMENTkWARDSARROWuWITHEQUILATERALARROWHEADyLARGEEQUILATERALARROWHEADgOUNDTIPPEDRIGH",
    "TWARDSARROWfSALTIREhNSSERIFINTERROBANGORNAMENTgCRIPTLIGATUREETORNAMENTgINGLECOMMAQUOTATIONMARKORNAMENTlTURNEDC",
    "OMMAQUOTATIONMARKORNAMENThXPOINTEDBLACKSTARiSPOKEDASTERISKgOUTHEASTARROWoPOINTINGBUDwVINELEAFkWESTPOINTINGBUDw",
    "VINELEAFgPARKLEfTEARDROPSHANKEDRIGHTWARDSARROWoPOKEDASTERISKtPINWHEELASTERISKgRIANGLEHEADEDRIGHTWARDSARROWgWEL",
    "VEPOINTEDBLACKSTARsPINWHEELSTARfUPPERRIGHTSHADOWEDWHITERIGHTWARDSARROWhWARDSARROWWITHEQUILATERALARROWHEADvLARG",
    "EEQUILATERALARROWHEADfVERTICALBARfWEDGETAILEDRIGHTWARDSARROWgHITECIRCLEkDOWNPOINTINGTRIANGLEkSQUAREgIDEHEADEDR",
    "IGHTWARDSARROWcBREWACCENTATNAHHAFUKHmDARGAnEHImETNAHTAmGERESHsMUQDAMpSHAYIMmILUYmMAHAPAKHnERKHAsKEFULAnUNAHmOL",
    "EmPASHTAoZERmQADMAoRNEYPARAmREVIAmSEGOLnHALSHELETmTELISHAGEDOLAtQETANAoVIRnIPEHAmYERAHBENYOMOoTIVmZAQEFGADOLrQ",
    "ATANoRQAnINORgLETTERALEFqWITHMAPIQuPATAHuQAMATSoTERNATIVEAYINxPLUSSIGNnYINmBETpWITHDAGESHtRAFEmDALETrWITHDAGES",
    "HmFINALKAFuWITHDAGESHrMEMrNUNrPEtWITHDAGESHrTSADImGIMELrWITHDAGESHmHEoToWITHMAPIQmKAFpWITHDAGESHtRAFEmLAMEDrWI",
    "THDAGESHmMEMpWITHDAGESHmNUNpWITHDAGESHmPEoWITHDAGESHsRAFEmQOFpWITHDAGESHmRESHqWITHDAGESHmSAMEKHsWITHDAGESHnHIN",
    "qWITHDAGESH+aANDSHINDOT+eINDOTuSHINDOTvINDOTmTAVpWITHDAGESHnETpWITHDAGESHnSADIrWITHDAGESHmVAVpWITHDAGESHtHOLAM",
    "mWIDEALEFqDALETqFINALMEMqHEqKAFqLAMEDqRESHqTAVmYODpWITHDAGESHtHIRIQmZAYINrWITHDAGESHhIGATUREALEFLAMEDoYIDDISHD",
    "OUBLEVAV+bYODvVAVYODvYODYODPATAHgMARKLOWERDOTkMASORACIRCLEkUPPERDOTgPOINTDAGESHORMAPIQlHATAFPATAHqQAMATSqSEGOL",
    "mIRIQmOLAMqHASERFORVAVlJUDEOSPANISHVARIKAlMETEGlPATAHlQAMATSrQATANmUBUTSlRAFElSEGOLmHEVAnINDOTmINDOTlTSEREhUNC",
    "TUATIONGERESHuSHAYIMrMAQAFrNUNHAFUKHArPASEQrSOFPASUQgYODTRIANGLEcDGEHOGcLICOPTERdLSCHREIBERPAUSESYMBOLdMETWITH",
    "WHITECROSSeSYMBOLcNTAIGANALETTERA1r2r3rWOqE1r2r3r4r5r6qHA1t0t1s2s3s4s5s6s7s8s9rE1s2s3s4s5s6s7rI1s2s3s4s5s6s7rO",
    "1s2s3s4s5s6s7s8rU1s2s3qI1r2r3r4qKA1t0t1s2s3s4s5s6s7s8s9sKErE1s2s3s4s5s6rI1s2s3s4s5s6s7s8rO1s2s3sKIrU1s2s3s4s5s",
    "6s7qMA1s2s3s4s5s6s7rE1s2sMArI1s2s3s4s5s6s7rO1s2s3s4s5s6rU1s2s3s4qNA1s2s3s4s5s6s7s8s9rE1s2s3s4s5s6sKOrI1s2s3s4s",
    "5s6s7sTErMUMO1v2rO1s2s3s4s5rU1s2s3qO1r2r3qRA1s2s3s4rE1s2s3s4rI1s2s3s4s5s6s7rO1s2s3s4s5s6rU1s2s3s4s5s6qSA1s2s3s",
    "4s5s6s7s8rE1s2s3s4s5rI1s2s3s4s5s6rO1s2s3s4s5s6s7rU1s2s3s4s5s6s7s8qTA1s2s3s4rE1s2s3s4s5s6s7s8s9rI1s2s3s4s5s6s7r",
    "O1s2s3s4s5s6sRArU1s2s3s4sTOqU1r2r3r4r5qWA1s2s3s4s5rE1s2s3s4rI1s2s3s4s5rO1s2s3s4s5s6s7qYA1s2s3s4s5sYOrO1s2s3s4s",
    "5s6rU1s2s3s4cRBdMITIANCONJUGATEMATRIXcXAGRAMFORABUNDANCEmFTERCOMPLETIONmPPROACHlBEFORECOMPLETIONmITINGTHROUGHm",
    "REAKTHROUGHlCOMINGTOMEETnNFLICToTEMPLATIONlDARKENINGOFTHELIGHTmECREASEnLIVERANCEnVELOPMENTmIFFICULTYATTHEBEGIN",
    "NINGnSPERSIONmURATIONlENTHUSIASMlFELLOWSHIPmOLLOWINGlGATHERINGTOGETHERmRACEnEATPOSSESSIONsWERrREPONDERANCEqTAM",
    "INGlHOLDINGTOGETHERlINCREASEnFLUENCEnNERTRUTHoOCENCElLIMITATIONlMODESTYnUTHCORNERSlOBSTRUCTIONmPPOSITIONoRESSI",
    "ONlPEACEmROGRESSmUSHINGUPWARDlRETREAToURNnVOLUTIONlSMALLPREPONDERANCEqTAMINGmPLITTINGAPARTmTANDSTILLlTHEABYSMA",
    "LWATERpRMYqOUSINGTHUNDERoCAULDRONpLINGINGFIREpREATIVEHEAVENoFAMILYoGENTLEWINDoJOYOUSLAKEoKEEPINGSTILLMOUNTAINo",
    "MARRYINGMAIDENoRECEPTIVEEARTHoWANDERERpELLmREADINGlWAITINGmORKONTHEDECAYEDlYOUTHFULFOLLYbIBISCUScGHBRIGHTNESSS",
    "YMBOLeHEELEDSHOEeOCTETPRESETeSPEEDTRAINoWITHBULLETNOSEeVOLTAGESIGNcKINGBOOTcNDUTEMPLEcPPOPOTAMUScRAGANADIGRAPH",
    "YORIiITERATIONMARKiLETTERApRCHAICWUvYEoBApEpIpOpUoDApEpIpOpUoEoGApEpIpOpUoHApEpIpOpUoIoKApEpIpOpUoMApEpIpOpUoN",
    "pApEpIpOpUoOoPApEpIpOpUoRApEpIpOpUoSApEpIpMALLAtEtItKAuEuOtOtTUtUtWAuEuIuOtYAuOuUpOpUoTApEpIpOpUoUoVUoWApEpIpO",
    "oYApOpUoZApEpIpOpUiVOICEDITERATIONMARKcSTORICSITEbOCHOcLEdLOWQUILTSQUAREORNAMENTzINBLACKSQUAREcMOTHETICcNEYBEE",
    "fPOTcOKcPcRIZONTALBARlLACKHEXAGONpOCTAGONkELLIPSISkLINEEXTENSIONkMALEWITHSTROKESIGNkONEEIGHTHBLOCK1358y2y3y4y5",
    "y6y7kSCANLINE1s3s7s9kTABKEYnULATIONuSETuWITHJUSTIFICATIONlRAFFICLIGHTdSEfFACEfRACINGcSPITALcTBEVERAGEdDOGdELdP",
    "EPPERdSPRINGScURGLASSjWITHFLOWINGSANDdSEfBUILDINGnSfWITHGARDENbRYVNIASIGNbTcJcSbUGGINGFACEcNDREDPOINTSSYMBOLcS",
    "HEDFACEcTbYACINTHcGIEAcPHENgATIONPOINTgBULLETgMINUSgWITHDIAERESISdODIASTOLEcSTERESISSYMBOL"]

/-- The names that start with I. -/
def namesI : List String :=
  ["aICECREAMeUBEdHOCKEYSTICKANDPUCKdSKATEbDENTICALTOlANDSLANTEDPARALLELjWITHDOTABOVEgFICATIONCARDdOGRAPHICANNOTAT",
    "IONBOTTOMMARKvEARTHMARKvFIRSTMARKwOURMARKzTHMARKvHEAVENMARKvLINKINGMARKvMANMARKwIDDLEMARKvONEMARKvREVERSEMARKv",
    "SECONDMARKvTHIRDMARKxREEMARKwOPMARKwWOMARKlCLOSINGMARKmOMMAlDEPARTINGTONEMARKnSCRIPTIONCHARACTERABOVETOBELOW+m",
    "MIDDLEANDBELOW+fFULLSURROUND+fLEFTTOMIDDLEANDRIGHT+lRIGHT+fOVERLAID+fSURROUNDFROMABOVE+rBELOW+rLEFT+sOWERLEFT+",
    "rUPPERLEFT+wRIGHTlENTERINGTONEMARKlFULLSTOPlHALFFILLSPACElITERATIONMARKlLEVELTONEMARKlNUMBERZEROlRISINGTONEMAR",
    "KlSPACElTALLYMARKFIVEvOURuONEuTHREEvWOmELEGRAPHLINEFEEDSEPARATORSYMBOLuSYMBOLFORAPRIL+eUGUST+dDAYEIGHT+lEEN+hL",
    "EVEN+gFIFTEEN+iVE+hOUR+kTEEN+gNINE+kTEEN+gONE+gSEVEN+lTEEN+hIX+jTEEN+gTEN+hHIRTEEN+lY+mONE+iREE+hWELVE+jNTY+mE",
    "IGHT+mFIVE+nOUR+mNINE+mONE+mSEVEN+nIX+mTHREE+nWO+iO+eECEMBER+dFEBRUARY+dHOUREIGHT+mEEN+iLEVEN+hFIFTEEN+jVE+iOU",
    "R+lTEEN+hNINE+lTEEN+hONE+hSEVEN+mTEEN+iIX+kTEEN+hTEN+iHIRTEEN+jREE+iWELVE+kNTY+nFOUR+nONE+nTHREE+oWO+jO+hZERO+",
    "dJANUARY+eULY+fNE+dMARCH+fY+dNOVEMBER+dOCTOBER+dSEPTEMBERlVARIATIONINDICATORbLOVEYOUHANDSIGNbMAGEOFhORAPPROXIM",
    "ATELYEQUALTOcPdERIALARAMAICLETTERALEPHwYINvBETHvDALETHvGIMELvHExTHvKAPHvLAMEDHvMEMvNUNvPEvQOPHvRESHvSADHExMEKH",
    "wHINvTAWwETHvWAWvYODHvZAYINpNUMBERONEyHUNDREDyTHOUSANDvTENyTHOUSANDwHREEwWENTYxOpSECTIONSIGNbNBOXTRAYcCOMINGEN",
    "VELOPEfPLETEINFINITYdREASEFONTSIZESYMBOLiSASfMENTcDdEXfPOINTINGATTHEVIEWERdIANRUPEESIGNeCSIYAQALTERNATELAKHMAR",
    "KkFRACTIONONEHALFvQUARTERsTHREEQUARTERSkLAKHMARKkNUMBERALTERNATEONEzTENTHOUSAND+aWOqEIGHTvHUNDREDvTHOUSANDvYwT",
    "HOUSANDqFIFTYvTHOUSANDsVEuHUNDREDuTHOUSANDrORTYvTHOUSANDsURuHUNDREDuTHOUSANDqKARORvANqLAKHuANqNINEuHUNDREDuTHO",
    "USANDvYwTHOUSANDqONEtHUNDREDtTHOUSANDqPREFIXEDEIGHTyFIVEzOURyNINEyONEySEVENzIXyTHREEzWOqSEVENvHUNDREDvTHOUSAND",
    "wYxTHOUSANDrIXtHUNDREDtTHOUSANDuYvTHOUSANDqTENtTHOUSANDrHIRTYwTHOUSANDsREEvHUNDREDvTHOUSANDrWENTYwTHOUSANDsOtH",
    "UNDREDtTHOUSANDkPLACEHOLDERkRUPEEMARKcFINITYiNEGATEDWITHVERTICALBARdORMATIONDESKPERSONlSEPARATORFOURuONEuTHREE",
    "vWOmOURCEcHIBITARABICFORMSHAPINGhSYMMETRICSWAPPINGcPUTSYMBOLFORLATINCAPITALLETTERStLETTERStSMALLLETTERSoNUMBER",
    "SoSYMBOLScSCRIPTIONALPAHLAVILETTERALEPH+aBETH+aDALETH+aGIMEL+aHE+cTH+aKAPH+aLAMEDH+aMEMQOPH+aNUN+aPE+aSADHE+cM",
    "EKH+bHIN+aTAW+bETH+aWAWAYINRESH+aYODH+aZAYINuNUMBERFOUR+aONE+dHUNDRED+dTHOUSAND+aTEN+bHREE+bWENTY+cOpRTHIANLET",
    "TERALEPH+cYIN+bBETH+bDALETH+bGIMEL+bHE+dTH+bKAPH+bLAMEDH+bMEM+bNUN+bPE+bQOPH+bRESH+bSADHE+dMEKH+cHIN+bTAW+cETH",
    "+bWAW+bYODH+bZAYINvNUMBERFOUR+bONE+eHUNDRED+eTHOUSAND+bTEN+cHREE+cWENTY+dOdERTIONSYMBOLcTEGRALiAROUNDAPOINTOPE",
    "RATORjVERAGEWITHSLASHiEXTENSIONiWITHDOUBLESTROKEmINTERSECTIONmLEFTWARDSARROWWITHHOOKmOVERBARmTIMESSIGNmUNDERBA",
    "RoIONeRCALATEfIORPRODUCTfLINEARANNOTATIONANCHORvSEPARATORvTERMINATORgOCKEDFEMALEANDMALESIGNfROBANGfSECTIONmABO",
    "VEBARABOVEUNIONrUNIONmBESIDEANDJOINEDWITHINTERSECTIONmWITHDOTqLOGICALANDqOVERBARcVERSEBULLEThCHECKERBOARDFILLm",
    "MARKhDOWNWARDSARROWWITHTIPLEFTWARDShMEDIUMSHADEhWHITECIRCLEfTEDEXCLAMATIONMARKiINTERROBANGiLAZYSjOWKAVYKArWITH",
    "KAVYKAABOVEiOHMSIGNiPENTAGRAMiQUESTIONMARKiUNDERTIEdISIBLEPLUSjSEPARATORjTIMESbZAKAYALANTERN"]

/-- The names that start with J. -/
def namesJ : List String :=
  ["aJACKOLANTERNcPANESEBANKSYMBOLiCASTLEiDOLLSiGOBLINiINDUSTRIALSTANDARDSYMBOLiOGREiPOSTOFFICEiSYMBOLFORBEGINNERc",
    "RcVANESECONSONANTSIGNCAKRAvKERETvPENGKALiDIGITEIGHTnFIVEoOURnNINEnONEnSEVENoIXnTHREEoWOnZEROiLEFTRERENGGANkTTE",
    "RApIoBAqMURDAoCAqMURDAoDAqMAHAPRANApDArMAHAPRANAoEoGAqMURDAoHAoIpIpKAWIoJAqMAHAPRANAoKAqMURDAqSASAKoLAoMAoNAqM",
    "URDApGArLELETwRASWADIpYArMURDAoOoPAqCEREKqMURDAoRAqAGUNGoSAqMAHAPRANArURDAoTAqMURDApTArMAHAPRANAoUoWAoYAiPADAA",
    "DEGqADEGnNDAPmISENISENmLINGSAnUHURoNGSImMADYAmPANGKATnISELEHmTIRTATUMETESmWINDUkNGKONmRANGKEPiRIGHTRERENGGANiS",
    "IGNCECAKrTELUmLAYARmPANYANGGAmWIGNYANiTURNEDPADAPISELEHiVOWELSIGNDIRGAMURErPEPETrSUKUvMENDUTrTALINGtRUNGsOLONG",
    "rWULUvMELIKbEANScLLYFISHbIGSAWPUZZLEPIECEbOINcYSTICKbUGGLINGcNOcPITER"]

/-- The names that start with K. -/
def namesK : List String :=
  ["aKAABAcITHIABBREVIATIONSIGNgDANDAhOUBLEDANDAmSECTIONMARKgENUMERATIONSIGNgLETTERAnAnInUmBAnHAmCAnHAmDAnDAoDHAoH",
    "AnHAmEmGAnHAmHAmInImJAnHAmKAnHAmLAmMAmNAnGAnNAnYAmOmPAnHAmRAnHAmSAnHAnSAmTAnHAnTAoHAmUnUmVAmYAgNUMBERSIGNqABOV",
    "EgSECTIONMARKhIGNANUSVARAkCANDRABINDUkNUKTAkVIRAMAmSARGAgVOWELSIGNAAqIqUpEpIqIpOpUqUpVOCALICRcKTOVIKNUMERALEIG",
    "HTuEENqLEVENpFIFTEENrVEqOURtTEENpNINEtTEENpONEpSEVENuTEENqIXsTEENpTENqHIRTEENrREEqWELVErOpZEROcNGAROOeXIRADICA",
    "LAGAINoNDoRRIVEqOWoXEnBADGERpMBOOoEANoIGpRDpTTERoLACKpOODpUEoOATpDYpLTOFCLOTHpNEpWoRANCHpISTLEpUSHnCARTpULDRON",
    "pVEoHILDoITYoLANqWpIFFpOTHESoOLORpMPAREpRPSEpVERpWnDEATHpERoIPPERpSHqTINGUISHpVINATIONoOGpNOTpORpTqTEDCLIFFtTE",
    "NTpUBLEXpWNBOXoRAGONpUMpYnEARqTHpToIGHToMBROIDERYoNCLOSUREpTERoVENrINGoYEnFACEpNGpTHERoEATHERoIELDpGHTpREpSHoL",
    "UTEpYoOOToRAGRANTpOGoURnGATEoHOSToOpLDpSLOWLYoRAINqSSnHAIRpLBERDqFTREETRUNKpNDoEADqRTpMPoIDINGENCLOSUREoOOKpRN",
    "qSEnICEoNCHpSECTnJADEpRnKNIFEnLACKpMEoEAFqTHERpEKpGSoIDpFEpNEoONGrSTRIDEnMANoEATpLONoILLETpNISTERoOONpRNINGqTA",
    "RpUNDrTAINqTHnNEToOSEpTnOLDoNEqSELFoPENBOXpPOSEnPIGoLOWoOWERoRIVATEpOFOUNDnRAINpPpToEDoICEpGHTOPENBOXpVERoOOFo",
    "UNnSACRIFICIALWINEpLTpYoCHOLARpRIPToEALpCONDpEpLFoHEEPqLLpOOTqRTTAILEDBIRDtHREADoICKNESSpLKoKINoLASHqVEpICEoMA",
    "LLoNOUToOUNDoPEARqECHpIRITpOONpROUToQUAREoTANDpEAMqPpONEqPrPINGoUNoWEETnTABLEpLLpNNEDLEATHERoENoIGERpLEoONGUEp",
    "OTHoRACKpEEpIPODoURBANqTLEoWOqHANDSnUSEnVALLEYoILLAGEnWALKrENCLOSUREpTERoEAPONpSToHEATpITEoINDqEoOMANpRKoRAPpO",
    "NGnYELLOWdNADAAILENGTHMARKhDIGITEIGHTmFIVEnOURmNINEmONEmSEVENnIXmTHREEnWOmZEROhLENGTHMARKjTTERAoAoIoUnBAoHAnCA",
    "oHAnDAoDApHAoHAnEoEnFAnGAoHAnHAnIoInJAoHAnKAoHAnLAoLApLAnMAnNApKAARAPOLLUoGAoNAoYAnOoOnPAoHAnRAoRAnSAoHAoSAnTA",
    "oHAoTApHAnUoUnVAoOCALICLvLuRvRnYAhSIGNANUSVARAmVAGRAHAlCANDRABINDUmOMBININGANUSVARAABOVERIGHTlJIHVAMULIYAlNUKT",
    "AlSIDDHAMmPACINGCANDRABINDUlUPADHMANIYAlVIRAMAnSARGAhVOWELSIGNAArIrUqErEqIrIqOrOqUrUqVOCALICLyLxRyRcTAKANADIGR",
    "APHKOTOiHIRAGANADOUBLEHYPHENqPROLONGEDSOUNDMARKqSEMIVOICEDSOUNDMARKqVOICEDSOUNDMARKiITERATIONMARKiLETTERApRCHA",
    "ICEvWUvYEwIoBApEpIpOpUoDApEpIpOpUoEoGApEpIpOpUoHApEpIpOpUoIoKApEpIpOpUoMApEpIqNNANNASALIZEDTONE1+h2+h3+h4+h5+h",
    "7+h8uTONE2y3y4y5y7y8pOpUoNpApEpIpOpUoOoPApEpIpOpUoRApEpIpOpUoSApEpIpMALLAtEtHAuEuIuOuUtItKAuEuOuUtMUtNuUtOtRAu",
    "EuIuOuUtSIuUtTOuUtUtWAuEuIuOtYAuOuUpOpUoTApEpIpOpUoUoVApEpIpOpUoWApEpIpOoYApOpUoZApEpIpOpUiMIDDLEDOTiVOICEDITE",
    "RATIONMARKcWICONJOINEReDANDAfIGITEIGHTjFIVEkOURjNINEjONEjSEVENkIXjTHREEkWOjZEROfOUBLEDANDAeLETTERAlAlIkBAlHAkC",
    "AlHAkDAlDAmHAlHAkEkGAlHAkHAkIlIkJAlHAlNYAkKAlHAkLAkMAkNAlGAlNAlYAkOkPAlHAkRAkSAlHAlSAkTAlHAlTAmHAkUlUkVOCALICL",
    "sLrRsRkWAkYAePUNCTUATIONALTERNATESECTIONMARKERpCIRCLEqLOSINGSPIRALpDOTrUBLEDOTpFILLEDCIRCLEqLOWERpSECTIONMARKE",
    "RqPACEFILLERrIRALpTRIPLEDOTeSIGNANUSVARAiCANDRABINDUiKILLERiREPHAiVISARGAeVOWELSIGNAAoIoLTERNATEAAnEoUnIoInUoU",
    "nVOCALICRcYAHLIDIGITEIGHTmFIVEnOURmNINEmONEmSEVENnIXmTHREEnWOmZEROhLETTERAnBAnCAnDAnGAnHAoTAnInKAoHAnLAnMAnNAo",
    "GAoYAnOEoOnPAoHAnRAnSAoHAnTAoHAnVAnWAnYAnZAhSIGNCWIlSHYAhTONECALYAqPLOPHUlPLOPHUhVOWELEnEmOmUnEbELVINSIGNcYdBO",
    "ARDiANDMOUSEdCAPTENbHANDAdROSHTHIDIGITFOURpONEpTHREEqWOkFRACTIONONEHALFkLETTERAqBArHAqCArHAqDArDAsHArHAqGArHAq",
    "HAqJAqKArHArKAqLAqMAqNArNArYAqPArHAqRAqSArHArSAqTArHArTAsHAsTAtHAqVArHAqYAqZAkNUMBERONEHUNDREDtTHOUSANDqTENrWE",
    "NTYkPUNCTUATIONCIRCLEwRESCENTBARvDANDAwOTxUBLEDANDAvLINESwOTUSvMANGALAMvSMALLCIRCLEkSIGNANUSVARAoBARABOVEoCAUD",
    "AoDOTBELOWqUBLERINGBELOWoVISARGAkVIRAMAlOWELLENGTHMARKpSIGNEtItOtUtVOCALICRcITANSMALLSCRIPTCHARACTER18B00+e1+e",
    "2+e3+e4+e5+e6+e7+e8+e9+eA+eB+eC+eD+eE+eF+d10+e1+e2+e3+e4+e5+e6+e7+e8+e9+eA+eB+eC+eD+eE+eF+d20+e1+e2+e3+e4+e5+e",
    "6+e7+e8+e9+eA+eB+eC+eD+eE+eF+d30+e1+e2+e3+e4+e5+e6+e7+e8+e9+eA+eB+eC+eD+eE+eF+d40+e1+e2+e3+e4+e5+e6+e7+e8+e9+e",
    "A+eB+eC+eD+eE+eF+d50+e1+e2+e3+e4+e5+e6+e7+e8+e9+eA+eB+eC+eD+eE+eF+d60+e1+e2+e3+e4+e5+e6+e7+e8+e9+eA+eB+eC+eD+e",
    "E+eF+d70+e1+e2+e3+e4+e5+e6+e7+e8+e9+eA+eB+eC+eD+eE+eF+d80+e1+e2+e3+e4+e5+e6+e7+e8+e9+eA+eB+eC+eD+eE+eF+d90+e1+",
    "e2+e3+e4+e5+e6+e7+e8+e9+eA+eB+eC+eD+eE+eF+dA0+e1+e2+e3+e4+e5+e6+e7+e8+e9+eA+eB+eC+eD+eE+eF+dB0+e1+e2+e3+e4+e5+",
    "e6+e7+e8+e9+eA+eB+eC+eD+eE+eF+dC0+e1+e2+e3+e4+e5+e6+e7+e8+e9+eA+eB+eC+eD+eE+eF+dD0+e1+e2+e3+e4+e5+e6+e7+e8+e9+",
    "eA+eB+eC+eD+eE+eF+dE0+e1+e2+e3+e4+e5+e6+e7+e8+e9+eA+eB+eC+eD+eE+eF+dF0+e1+e2+e3+e4+e5+e6+e7+e8+e9+eA+eB+eC+eD+",
    "eE+eF+cC00+e1+e2+e3+e4+e5+e6+e7+e8+e9+eA+eB+eC+eD+eE+eF+d10+e1+e2+e3+e4+e5+e6+e7+e8+e9+eA+eB+eC+eD+eE+eF+d20+e",
    "1+e2+e3+e4+e5+e6+e7+e8+e9+eA+eB+eC+eD+eE+eF+d30+e1+e2+e3+e4+e5+e6+e7+e8+e9+eA+eB+eC+eD+eE+eF+d40+e1+e2+e3+e4+e",
    "5+e6+e7+e8+e9+eA+eB+eC+eD+eE+eF+d50+e1+e2+e3+e4+e5+e6+e7+e8+e9+eA+eB+eC+eD+eE+eF+d60+e1+e2+e3+e4+e5+e6+e7+e8+e",
    "9+eA+eB+eC+eD+eE+eF+d70+e1+e2+e3+e4+e5+e6+e7+e8+e9+eA+eB+eC+eD+eE+eF+d80+e1+e2+e3+e4+e5+e6+e7+e8+e9+eA+eB+eC+e",
    "D+eE+eF+d90+e1+e2+e3+e4+e5+e6+e7+e8+e9+eA+eB+eC+eD+eE+eF+dA0+e1+e2+e3+e4+e5+e6+e7+e8+e9+eA+eB+eC+eD+eE+eF+dB0+",
    "e1+e2+e3+e4+e5+e6+e7+e8+e9+eA+eB+eC+eD+eE+eF+dC0+e1+e2+e3+e4+e5+e6+e7+e8+e9+eA+eB+eC+eD+eE+eF+dD0+e1+e2+e3+e4+",
    "e5rFILLERcMERCURRENCYSYMBOLRIELfDIGITEIGHTkFIVElOURkNINEkONEkSEVENlIXkTHREElWOkZEROfINDEPENDENTVOWELLYxYvQAAxI",
    "xQxUwEwIxIwOOTYPEONE+cTWOwUxKxUyVvRYxYfLETTERBAlCAmHAnOmOlDAmOlHAlKAmHAnOmOlLAmOlMOlNGOmNOmOmYOlPHAnOmOlQAlROl",
    "SAmHAmSOlTAmHAnOmOmTHAoOlVOlYOfSIGNAHSDAkTTHACANkVAKRAHASANYAjBANTOClRIYOOSANlTHAMASATkEYYALjCAMNUCPIIKUUHkOEN",
    "GjKAKABATkHANkOOMUUTjLEKTOOjMUUSIKATOANjNIKAHITjPHNAEKMUANjREAHMUKkOBATjSAMYOKSANNYAjTOANDAKHIATkRIISAPjVIRIAM",
    "jYUUKALEAPINTUgYMBOLBEIKOEToROCmUONKOETpROClDAPBEIKOETrROCpUONKOETsROCoKOEToMUOYKOETsROCoPIIKOETrROCpRAMKOETsR",
    "OCoROClLEKATTAKBEIuUONtMUOYtPIIuRAMxBEIyUONxMUOYxPIItSONlMUOYKOETpROClPATHAMASATmIIKOEToROCmRAMBEIKOETsROCqUON",
    "KOETtROCpKOETpMUOYKOETtROCpPIIKOETsROCpROClTUTEYASATfVOWELINHERENTAAtQkSIGNAApEpIpUoEoIpEpIoOEpOoUpApUoYpApYcO",
    "JKIABBREVIATIONSIGNgDANDAhOUBLEDANDAmSECTIONMARKgLETTERAnAnInUmBAnBAnHAmCAnHAmDAnDAoDAoHAnHAmEmGAnGAnHAmHAmImJ",
    "AnJAmKAnHAmLAnLAmMAmNAnGAnNAnYAmOmPAnHAmQAmRAmSAnHORTImTAnHAnTAoHAmUmVAmYAgSECTIONMARKhIGNANUSVARAkNUKTAkSHADD",
    "AlUKUNkVIRAMAgVOWELSIGNAAqIqUpEpIqIpOpUpVOCALICRgWORDSEPARATORcUDAWADIDIGITEIGHToFIVEpOURoNINEoONEoSEVENpIXoTH",
    "REEpWOoZEROjLETTERAqAqIqUpBAqBAqHApCAqHApDAqDArDArHAqHApEpGAqGAqHApHApIqIpJAqHAqJApKAqHApLApMApNAqGAqNAqYApOpP",
    "AqHApRAqRApSAqHApTAqHAqTArHApUqUpVApYAjSIGNANUSVARAnNUKTAnVIRAMAjVOWELSIGNAAtItUsEsItIsOsUtUbIMONOcPSIGNcSSeIN",
    "GCATFACEWITHCLOSEDEYEShFACElWITHCLOSEDEYESpSMILINGEYESeMARKcTEcWIFRUITbNEELINGPERSONcOTbOALAcREANSTANDARDSYMBO",
    "LbRONOS"]

end CharacterName

end Text

end PythonAudit
